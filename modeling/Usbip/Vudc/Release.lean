import Usbip.Vudc.DeviceSteps

/-!
# Who frees the requests of the vudc

An accepted `urbp` is on `urb_queue` until either `stop_activity` frees it or `v_timer` takes it
off; one that was taken is then freed by `v_timer` itself or by the sending thread.  This account
is kept by every step (`Inv`), and with it `v_timer` never has a freed `urbp` in hand, as long as
`stop_activity` does not free the queue while `v_timer` waits for a callback and the item of a
RET_SUBMIT can be allocated (`urbp_released_once`).  Otherwise `v_timer` goes on with a freed
`urbp` (`resumes_with_freed_urbp`).
-/

namespace Usbip.Vudc.Device

open Usbip.Core Usbip.Common

variable {s t : State}

/-! ## The account of the `urbp`s -/

/-- The `urbp` that the receiving thread has allocated and not yet queued. -/
def RxPc.held : RxPc → List Nat
  | submit p => [p.ticket]
  | stopped | top | pdu => []

/-- The item the sending thread has dequeued. -/
def TxPc.hand : TxPc → List Item
  | sending x => [x]
  | stopped | top | send => []

/-- The `urbp`s waiting for the sending thread, on `tx_queue` or in its hand. -/
def State.waiting (s : State) : List Nat :=
  (s.tx.hand ++ s.txQueue).flatMap Item.tickets

/-- The ticket of a `urbp` that is taken off the queue. -/
lemma tickets_perm {n : Nat} {p : Allocated}
    (hf : s.urbQueue.find? (fun p => p.ticket = n) = some p)
    (hqueue : t.urbQueue = s.urbQueue.eraseP fun p => p.ticket = n) :
    s.tickets.Perm (n :: t.tickets) := by
  have hp : p.ticket = n := by simpa using List.find?_some hf
  unfold State.tickets
  rw [hqueue, ← hp]
  exact (perm_cons_eraseP_of_find? (hp ▸ hf)).map Allocated.ticket

/-- Every accepted `urbp` has one place, and `v_timer` has only `urbp`s of `urb_queue` in hand. -/
structure Inv (s : State) : Prop where
  threads : Threads s
  accepted : s.accepted.Perm (s.tickets ++ s.stopped ++ s.taken)
  taken : s.taken.Perm (s.waiting ++ s.released ++ s.lost)
  nodup : (s.rx.held ++ s.accepted).Nodup
  below : ∀ n ∈ s.rx.held ++ s.accepted, n < s.allocs
  live : ∀ n ∈ s.timer.urbps, n ∈ s.tickets

namespace Inv

/-- Nothing is queued at the start. -/
lemma start {ep : Nat → Vep} {speed : Speed} : Inv { ep, speed } where
  threads := ⟨fun _ => ⟨rfl, rfl⟩, fun h => (by cases h), fun h => (by cases h)⟩
  accepted := List.Perm.refl _
  taken := List.Perm.refl _
  nodup := List.nodup_nil
  below := by simp [RxPc.held]
  live := by simp [TimerPc.urbps]

/-- No URB is accepted twice. -/
lemma accepted_nodup (hi : Inv s) : s.accepted.Nodup :=
  (List.nodup_append.mp hi.nodup).2.1

/-- No URB is in two places. -/
lemma places_nodup (hi : Inv s) : (s.tickets ++ s.stopped ++ s.taken).Nodup :=
  hi.accepted.nodup_iff.mp hi.accepted_nodup

/-- No URB is queued twice. -/
lemma tickets_nodup (hi : Inv s) : s.tickets.Nodup :=
  (List.nodup_append.mp (List.nodup_append.mp hi.places_nodup).1).1

/-- A framed step keeps the places. -/
lemma frame (hi : Inv s) (h : Frame s t)
    (hlive : ∀ n ∈ t.timer.urbps, n ∈ s.timer.urbps ∨ n ∈ s.tickets) : Inv t where
  threads := hi.threads.frame h
  accepted := by
    rw [h.accepted, h.tickets, h.stopped, h.taken]
    exact hi.accepted
  taken := by
    unfold State.waiting
    rw [h.taken, h.tx, h.txQueue, h.released, h.lost]
    exact hi.taken
  nodup := by
    rw [h.rx, h.accepted]
    exact hi.nodup
  below := by
    rw [h.rx, h.accepted, h.allocs]
    exact hi.below
  live n hn := by
    rw [h.tickets]
    exact (hlive n hn).elim (hi.live n) id

/-- `v_timer` takes a `urbp` off the queue, and its reply goes to the sending thread or the `urbp`
is freed. -/
theorem returnUrb (hi : Inv s) {allocOk : Bool} {n : Nat} {total : Int}
    (h : returnUrb allocOk n total s = some t) : Inv t := by
  obtain ⟨p, hf, hp, hqueue, htxq, htaken, hreleased, hlost, htx, hrx, heh, hconn, -, -, hallocs,
    hacc, hstopped, hpc⟩ := returnUrb_cases h
  have hperm := tickets_perm hf hqueue
  have hwaiting : t.waiting = s.waiting ++ if p.unlinked = 0 ∧ allocOk = true then [n] else [] := by
    unfold State.waiting
    rw [htx, htxq, ← List.append_assoc, List.flatMap_append]
    cases allocOk
    · simp
    · by_cases hu : p.unlinked = 0
      · simp [replyItem, hu, Item.tickets, hp]
      · simp [replyItem, show ¬ p.unlinked = 0#32 from hu, Item.tickets]
  refine ⟨⟨?_, ?_, ?_⟩, ?_, ?_, ?_, ?_, ?_⟩
  · rw [hconn, hrx, htx]
    exact hi.threads.quiet
  · rw [heh, hrx]
    exact hi.threads.rx_stopped
  · rw [heh, htx]
    exact hi.threads.tx_stopped
  · rw [hacc, hstopped, htaken]
    refine hi.accepted.trans (List.perm_iff_count.mpr fun m => ?_)
    have hcount := hperm.count_eq m
    simp only [List.count_append, List.count_cons, List.count_nil] at hcount ⊢
    omega
  · rw [htaken, hwaiting, hreleased, hlost]
    refine (hi.taken.append_right [n]).trans (List.perm_iff_count.mpr fun m => ?_)
    by_cases hu : p.unlinked = 0 <;> cases allocOk <;>
      simp only [hu, List.count_append, List.count_nil, reduceCtorEq, if_true, if_false,
        and_true, and_false] <;> omega
  · rw [hrx, hacc]
    exact hi.nodup
  · rw [hrx, hacc, hallocs]
    exact hi.below
  · rw [hpc]
    intro m hm
    simp only [TimerPc.urbps, Option.mem_toList, Option.map_eq_some_iff] at hm
    obtain ⟨q, hq, rfl⟩ := hm
    exact List.mem_map_of_mem (List.mem_of_mem_head? hq)

/-- The receiving thread moves without a `urbp`. -/
lemma moveRx (hi : Inv s) (hrx : s.rx ≠ .stopped) (hheld : s.rx.held = []) {pc : RxPc}
    (hpc : pc.held = []) (event : Bool) : Inv { s with rx := pc, event } := by
  obtain ⟨hthreads, haccepted, htaken, hnodup, hbelow, hlive⟩ := hi
  rw [hheld] at hnodup hbelow
  refine ⟨hthreads.moveRx hrx rfl rfl rfl, haccepted, htaken, ?_, ?_, hlive⟩
  · rwa [hpc]
  · rwa [hpc]

/-- An unlink keeps the places. -/
theorem cmdUnlink (hi : Inv s) (hrx : s.rx = .pdu) (allocOk : Bool) (u n : Seqnum) :
    Inv { vRecvCmdUnlink allocOk u n s with rx := .top } := by
  have hi' : Inv (vRecvCmdUnlink allocOk u n s) := by
    have htimer := vRecvCmdUnlink_timer allocOk u n s
    rcases vRecvCmdUnlink_cases allocOk u n s with ⟨l₁, p, l₂, hq, hframe⟩ | hframe
    · have htickets : State.tickets { s with urbQueue := l₁ ++ p.unlink u s.connection :: l₂ }
          = s.tickets := by
        simp [State.tickets, hq, Allocated.unlink]
      refine Inv.frame ?_ hframe fun m hm => Or.inl (htimer ▸ hm)
      refine ⟨⟨hi.threads.quiet, hi.threads.rx_stopped, hi.threads.tx_stopped⟩, ?_, hi.taken,
        hi.nodup, hi.below, ?_⟩
      · rw [htickets]
        exact hi.accepted
      · rw [htickets]
        exact hi.live
    · refine Inv.frame ?_ hframe fun m hm => Or.inl (htimer ▸ hm)
      refine ⟨⟨hi.threads.quiet, hi.threads.rx_stopped, hi.threads.tx_stopped⟩, hi.accepted, ?_,
        hi.nodup, hi.below, hi.live⟩
      refine hi.taken.trans (List.Perm.of_eq ?_)
      cases allocOk <;> simp [State.waiting, Item.tickets]
  have hpc : (vRecvCmdUnlink allocOk u n s).rx = .pdu := by
    rcases vRecvCmdUnlink_cases allocOk u n s with ⟨_, _, _, _, hframe⟩ | hframe <;>
      exact hframe.rx.trans hrx
  exact hi'.moveRx (by simp [hpc]) (by rw [hpc]; rfl) rfl _

/-- A new URB is held by the receive thread. -/
theorem cmdSubmit (hi : Inv s) (hrx : s.rx = .pdu) {p : Allocated} (hp : p.ticket = s.allocs) :
    Inv { s with rx := .submit p, allocs := s.allocs + 1 } := by
  obtain ⟨hthreads, haccepted, htaken, hnodup, hbelow, hlive⟩ := hi
  rw [hrx] at hnodup hbelow
  refine ⟨hthreads.moveRx (by simp [hrx]) rfl rfl rfl, haccepted, htaken, ?_, ?_, hlive⟩
  · refine List.nodup_cons.mpr ⟨fun hmem => ?_, hnodup⟩
    have hlt := hbelow _ hmem
    omega
  · intro m hm
    show m < s.allocs + 1
    rcases List.mem_cons.mp hm with rfl | hm
    · omega
    · exact Nat.lt_succ_of_lt (hbelow m hm)

/-- `v_queue_urbp` moves the URB to the queue. -/
theorem queue (hi : Inv s) {p : Allocated} (hrx : s.rx = .submit p) :
    Inv { vQueueUrbp p s with rx := .top } := by
  have hk := Frame.vKickTimer s
  have hkick := hi.frame hk fun m hm => Or.inl (vKickTimer_timer s ▸ hm)
  obtain ⟨hthreads, haccepted, htaken, hnodup, hbelow, hlive⟩ := hkick
  have hpc : (vKickTimer s).rx = .submit p := hk.rx.trans hrx
  rw [hpc] at hnodup hbelow
  refine ⟨hthreads.moveRx (by simp [hpc]) rfl rfl rfl, ?_, htaken, ?_, ?_, ?_⟩
  · refine (haccepted.append_right [p.ticket]).trans (List.perm_iff_count.mpr fun m => ?_)
    simp only [State.tickets, vQueueUrbp, List.map_append, List.map_cons, List.map_nil,
      List.count_append]
    omega
  · exact (List.perm_append_singleton p.ticket _).nodup_iff.mpr hnodup
  · intro m hm
    exact hbelow m ((List.perm_append_singleton p.ticket _).mem_iff.mp hm)
  · intro m hm
    simp only [State.tickets, vQueueUrbp, List.map_append]
    exact List.mem_append_left _ (hlive m hm)

/-- A CMD_SUBMIT that is not accepted: its `urbp` is freed. -/
theorem submitFail (hi : Inv s) {p : Allocated} (hrx : s.rx = .submit p) (event : Bool) :
    Inv { s with rx := .stopped, event } := by
  obtain ⟨hthreads, haccepted, htaken, hnodup, hbelow, hlive⟩ := hi
  rw [hrx] at hnodup hbelow
  refine ⟨hthreads.moveRx (by simp [hrx]) rfl rfl rfl, haccepted, htaken, ?_, ?_, hlive⟩
  · exact (List.nodup_cons.mp hnodup).2
  · exact fun m hm => hbelow m (List.mem_cons_of_mem _ hm)

/-- The receive thread keeps the places. -/
theorem rx (hi : Inv s) {a : RxAction} (h : stepRx s a = some t) : Inv t := by
  cases a with
  | top =>
      simp only [stepRx] at h
      split at h <;> cases h
      rename_i hrx
      refine hi.moveRx (by simp [hrx]) (by rw [hrx]; rfl) ?_ s.event
      split <;> rfl
  | fail addsEvent =>
      simp only [stepRx] at h
      split at h <;> cases h
      rename_i hrx
      exact hi.moveRx (by simp [hrx]) (by rw [hrx]; rfl) rfl _
  | cmdUnlink allocOk u n =>
      simp only [stepRx] at h
      split at h
      · rename_i hrx
        split at h <;> cases h
        exact hi.cmdUnlink hrx allocOk u n
      · cases h
  | cmdSubmit n i len =>
      simp only [stepRx] at h
      split at h <;> cases h
      rename_i hrx
      exact hi.cmdSubmit hrx rfl
  | queue =>
      simp only [stepRx] at h
      split at h
      · rename_i p hrx
        split at h <;> cases h
        exact hi.queue hrx
      · cases h
  | submitFail addsEvent =>
      simp only [stepRx] at h
      split at h <;> cases h
      rename_i p hrx
      exact hi.submitFail hrx _

/-- The sending thread moves, and what it no longer waits for has been freed. -/
lemma moveTx (hi : Inv s) (htx : s.tx ≠ .stopped) (hframe : Frame
      { s with tx := t.tx, txQueue := t.txQueue, wire := t.wire, released := t.released } t)
    (htimer : t.timer = s.timer)
    (hwaiting : (s.waiting ++ s.released).Perm (t.waiting ++ t.released)) : Inv t where
  threads := hi.threads.moveTx htx hframe.rx hframe.eh hframe.connected
  accepted := by
    rw [hframe.accepted, hframe.tickets, hframe.stopped, hframe.taken]
    exact hi.accepted
  taken := by
    rw [hframe.taken, hframe.lost]
    exact hi.taken.trans (hwaiting.append_right s.lost)
  nodup := by
    rw [hframe.rx, hframe.accepted]
    exact hi.nodup
  below := by
    rw [hframe.rx, hframe.accepted, hframe.allocs]
    exact hi.below
  live := by
    rw [htimer, hframe.tickets]
    exact hi.live

/-- The transmit thread keeps the places. -/
theorem tx (hi : Inv s) {a : TxAction} (h : stepTx s a = some t) : Inv t := by
  cases a with
  | top =>
      simp only [stepTx] at h
      split at h <;> cases h
      rename_i htx
      refine hi.moveTx (by simp [htx]) (by constructor <;> rfl) rfl ?_
      unfold State.waiting
      rw [htx]
      dsimp only
      split <;> exact List.Perm.refl _
  | send sendOk =>
      simp only [stepTx] at h
      split at h
      · rename_i htx
        split at h <;> cases h
        · rename_i x rest hq
          refine hi.moveTx (by simp [htx]) (by constructor <;> rfl) rfl ?_
          simp [State.waiting, htx, hq, TxPc.hand]
        · rename_i hq
          refine hi.moveTx (by simp [htx]) (by constructor <;> rfl) rfl ?_
          simp [State.waiting, htx, hq, TxPc.hand]
      · rename_i x htx
        have hperm : (x.tickets ++ s.txQueue.flatMap Item.tickets ++ s.released).Perm
            (s.txQueue.flatMap Item.tickets ++ (s.released ++ x.tickets)) := by
          rw [List.append_assoc]
          refine List.perm_append_comm.trans ?_
          rw [List.append_assoc]
        split at h <;> cases h
        · refine hi.moveTx (by simp [htx]) (by constructor <;> rfl) rfl ?_
          simpa [State.waiting, htx, TxPc.hand] using hperm
        · refine hi.moveTx (by simp [htx]) (by constructor <;> rfl) rfl ?_
          simpa [State.waiting, htx, TxPc.hand] using hperm
      · cases h

/-- `stop_activity` frees what is on the queue, of which `v_timer` has nothing in hand. -/
theorem stopActivity (hi : Inv s) (hpc : s.timer.urbps = []) {eh : EhPc} {connected : Bool}
    (event : Bool) (hthreads : Threads { s with eh, connected }) :
    Inv { stopActivity s with eh, connected, event } where
  threads := ⟨hthreads.quiet, hthreads.rx_stopped, hthreads.tx_stopped⟩
  accepted := by
    refine hi.accepted.trans (List.perm_iff_count.mpr fun m => ?_)
    simp only [State.tickets, Device.stopActivity, List.map_nil, List.count_append,
      List.count_nil]
    omega
  taken := hi.taken
  nodup := hi.nodup
  below := hi.below
  live := by
    intro m hm
    have hm' : m ∈ s.timer.urbps := hm
    rw [hpc] at hm'
    cases hm'

/-- The handler's own moves keep the places. -/
lemma ehMove (hi : Inv s) (h : EhMove s t) : Inv t := by
  have hi' : Inv { s with eh := t.eh } := by
    obtain ⟨hthreads, haccepted, htaken, hnodup, hbelow, hlive⟩ := hi
    refine ⟨⟨hthreads.quiet, fun heh => ?_, fun heh => ?_⟩, haccepted, htaken, hnodup, hbelow,
      hlive⟩
    · exact (h.rx_stopped heh).elim id hthreads.rx_stopped
    · exact (h.tx_stopped heh).elim id hthreads.tx_stopped
  exact hi'.frame h.frame fun m hm => Or.inl (h.timer ▸ hm)

/-- A store keeps the places. -/
theorem connect (hi : Inv s) (now : Int) (hconn : s.connected = false) (heh : s.eh = .idle) :
    Inv (storeSockfd now s) := by
  have hs := Frame.vStartTimer now s
  have hstart := hi.frame hs fun m hm => Or.inl (vStartTimer_timer now s ▸ hm)
  obtain ⟨hrx, htx⟩ := hi.threads.quiet hconn
  obtain ⟨-, haccepted, htaken, hnodup, hbelow, hlive⟩ := hstart
  rw [hs.rx, hrx] at hnodup hbelow
  unfold State.waiting at htaken
  rw [hs.tx, htx] at htaken
  exact ⟨.connect now heh, haccepted, htaken, hnodup, hbelow, hlive⟩

end Inv

/-! ## Every step -/

/-- `stop_activity` and the timer exclude one another, if they did. -/
theorem Inv.lockExclusive (hi : Inv s) (hlock : LockExclusive s) {a : Action}
    (hst : step s a = some t) : LockExclusive t := by
  cases a with
  | eventAdd =>
      obtain rfl := Option.some.inj hst
      exact hlock
  | gadget ep speed =>
      simp only [step] at hst
      split at hst <;> cases hst
      exact hlock
  | connect now =>
      simp only [step] at hst
      split at hst <;> cases hst
      unfold LockExclusive
      rw [show (storeSockfd now s).timer = s.timer from vStartTimer_timer now s,
        show (storeSockfd now s).eh = s.eh from (Frame.vStartTimer now s).eh]
      exact hlock
  | timer a =>
      have heh := stepTimer_lock hst hlock
      right
      rcases stepTimer_cases hi.tickets_nodup hst with ⟨hframe, -⟩ |
        ⟨s', n, total, hframe, -, -, h⟩
      · rwa [hframe.eh]
      · obtain ⟨_, _, _, _, _, _, _, _, _, _, heh', _⟩ := returnUrb_cases h
        rwa [heh', hframe.eh]
  | rx a =>
      obtain ⟨htimer, heh, -⟩ := stepRx_keeps hst
      unfold LockExclusive
      rwa [htimer, heh]
  | tx a =>
      obtain ⟨htimer, heh, -⟩ := stepTx_keeps hst
      unfold LockExclusive
      rwa [htimer, heh]
  | eh a => exact stepEh_lock hst hlock

/-- `stop_activity` frees the queue only when `v_timer` is not in a callback. -/
def AtRest (s : State) : Action → Prop
  | .eh (.stopActivity _) => s.timer.inCallback = false
  | _ => True

instance (s : State) (a : Action) : Decidable (AtRest s a) :=
  match a with
  | .eh (.stopActivity _) => inferInstanceAs (Decidable (_ = _))
  | .eh .shutdown | .eh .stopped | .eh .reset | .eh (.unusable _) | .eh .lock | .eh .nuke
  | .eh (.available _) | .eventAdd | .gadget _ _ | .connect _ | .timer _ | .rx _ | .tx _ =>
      isTrue trivial

/-- The timer keeps the places. -/
theorem Inv.timer (hi : Inv s) {a : TimerAction} (h : stepTimer s a = some t) : Inv t := by
  rcases stepTimer_cases hi.tickets_nodup h with ⟨hframe, hlive⟩ |
    ⟨s', n, total, hframe, htimer, -, h⟩
  · exact hi.frame hframe hlive
  · exact (hi.frame hframe fun m hm => Or.inl (htimer ▸ hm)).returnUrb h

/-- One step keeps the account. -/
theorem Inv.step (hi : Inv s) (hlock : LockExclusive s) {a : Action} (hok : AtRest s a)
    (hst : step s a = some t) : Inv t := by
  cases a with
  | eventAdd =>
      obtain rfl := Option.some.inj hst
      exact hi.frame (by constructor <;> rfl) fun _ => Or.inl
  | gadget ep speed =>
      simp only [Device.step] at hst
      split at hst <;> cases hst
      exact hi.frame (by constructor <;> rfl) fun _ => Or.inl
  | connect now =>
      simp only [Device.step] at hst
      split at hst <;> cases hst
      rename_i hc
      exact hi.connect now (by simpa using hc.2.2.1) hc.2.1
  | timer a => exact hi.timer hst
  | rx a => exact hi.rx hst
  | tx a => exact hi.tx hst
  | eh a =>
      rcases stepEh_cases hst with hmove | ⟨event, rfl, hstop⟩
      · exact hi.ehMove hmove
      have hpc : s.eh.unlocked = false → s.timer.urbps = [] := by
        intro heh
        have hunlocked := hlock.resolve_right (by simp [heh])
        have hcallback : s.timer.inCallback = false := hok
        cases hpc : s.timer <;> simp_all [TimerPc.unlocked, TimerPc.inCallback, TimerPc.urbps]
      rcases hstop with ⟨heh, rfl⟩ | ⟨heh, rfl⟩
      · have hrx := hi.threads.rx_stopped (by rw [heh]; rfl)
        have htx := hi.threads.tx_stopped (by rw [heh]; rfl)
        refine hi.stopActivity (hpc (by rw [heh]; rfl)) event ⟨fun _ => ⟨hrx, htx⟩, ?_, ?_⟩
        · exact fun _ => hrx
        · exact fun _ => htx
      · refine hi.stopActivity (hpc (by rw [heh]; rfl)) s.event ⟨hi.threads.quiet, ?_, ?_⟩
        · exact fun h => (by cases h)
        · exact fun h => (by cases h)

/-! ## Each accepted request is released once -/

/-- Each accepted `urbp` is on `urb_queue`, waiting for the sending thread, freed by
`stop_activity`, or freed after `v_timer` took it off, and only one of these; what `v_timer` takes
off the queue, and what it has in hand when it holds the lock, `stop_activity` has not freed. -/
structure ReleasedOnce (s : State) : Prop where
  one_place : ∀ n ∈ s.accepted, s.tickets.count n + s.waiting.count n + s.stopped.count n +
    s.released.count n = 1
  released_taken : ∀ n ∈ s.released, n ∈ s.taken
  taken_not_stopped : ∀ n ∈ s.taken, n ∉ s.stopped
  live : s.timer.unlocked = false → ∀ n ∈ s.timer.urbps, n ∉ s.stopped

/-- The `urbp` that `v_timer` is at. -/
def State.current (s : State) : Option Allocated :=
  s.timer.cur.bind fun n => s.urbQueue.find? fun p => p.ticket = n

/-- The item of a RET_SUBMIT can be allocated. -/
def ItemAllocated (s : State) : Action → Prop
  | .timer a => a.allocOk = true ∨ (s.current.any fun p => p.unlinked ≠ 0) = true
  | _ => True

instance (s : State) (a : Action) : Decidable (ItemAllocated s a) :=
  match a with
  | .timer _ => inferInstanceAs (Decidable (_ ∨ _))
  | .eventAdd | .gadget _ _ | .connect _ | .rx _ | .tx _ | .eh _ => isTrue trivial

/-- No RET_SUBMIT is lost in such a step. -/
lemma lost_eq_nil (hi : Inv s) (hlost : s.lost = []) {a : Action} (hok : ItemAllocated s a)
    (hst : step s a = some t) : t.lost = [] := by
  cases a with
  | eventAdd =>
      obtain rfl := Option.some.inj hst
      exact hlost
  | gadget ep speed =>
      simp only [step] at hst
      split at hst <;> cases hst
      exact hlost
  | connect now =>
      simp only [step] at hst
      split at hst <;> cases hst
      exact (Frame.vStartTimer now s).lost.trans hlost
  | timer a =>
      rcases stepTimer_cases hi.tickets_nodup hst with ⟨hframe, -⟩ |
        ⟨s', n, total, hframe, -, hcur, h⟩
      · exact hframe.lost.trans hlost
      obtain ⟨p, hp, -, -, -, -, -, hlost', -⟩ := returnUrb_cases h
      have hkey := hframe.find?_key n
      rw [hp] at hkey
      obtain ⟨q, hq, hqp⟩ := Option.map_eq_some_iff.mp hkey.symm
      have hcurrent : s.current = some q := by
        rw [State.current, hcur]
        exact hq
      have hunlinked : q.unlinked = p.unlinked := congrArg (fun k => k.2.2) hqp
      have hkept : ¬ (p.unlinked = 0 ∧ a.allocOk = false) := by
        rintro ⟨hu, halloc⟩
        rcases hok with hok | hok
        · rw [halloc] at hok
          cases hok
        · simp [hcurrent, hunlinked, show p.unlinked = 0#32 from hu] at hok
      rw [hlost', if_neg hkept, List.append_nil, hframe.lost, hlost]
  | rx a => exact (stepRx_keeps hst).2.2.trans hlost
  | tx a => exact (stepTx_keeps hst).2.2.trans hlost
  | eh a =>
      rcases stepEh_cases hst with hmove | ⟨event, rfl, ⟨-, rfl⟩ | ⟨-, rfl⟩⟩
      · exact hmove.frame.lost.trans hlost
      · exact hlost
      · exact hlost

/-- While nothing is lost each URB is released once. -/
lemma Inv.releasedOnce (hi : Inv s) (hlost : s.lost = []) : ReleasedOnce s where
  one_place n hn := by
    have hone := List.count_eq_one_of_mem hi.accepted_nodup hn
    rw [hi.accepted.count_eq] at hone
    have htaken := hi.taken.count_eq n
    simp only [hlost, List.count_append, List.count_nil] at hone htaken
    omega
  released_taken n hn :=
    hi.taken.mem_iff.mpr (List.mem_append_left _ (List.mem_append_right _ hn))
  taken_not_stopped n hn hstopped :=
    (List.nodup_append.mp hi.places_nodup).2.2 n (List.mem_append_right _ hstopped) n hn rfl
  live _ n hn hstopped :=
    (List.nodup_append.mp (List.nodup_append.mp hi.places_nodup).1).2.2 n (hi.live n hn) n
      hstopped rfl

/-- A `urbp` whose RET_SUBMIT could not be queued is nowhere. -/
lemma Inv.not_releasedOnce (hi : Inv s) {n : Nat} (hn : n ∈ s.lost) : ¬ ReleasedOnce s := by
  intro hs
  have htaken : n ∈ s.taken := hi.taken.mem_iff.mpr (List.mem_append_right _ hn)
  have hone := hs.one_place n (hi.accepted.mem_iff.mpr (List.mem_append_right _ htaken))
  have hplaces := hi.places_nodup
  rw [List.nodup_iff_count_le_one] at hplaces
  have hle := hplaces n
  have hcount := hi.taken.count_eq n
  have hpos := List.count_pos_iff.mpr hn
  simp only [List.count_append] at hle hcount
  omega

/-- Nothing else goes wrong than that an item could not be allocated. -/
lemma Inv.releasedOnce_iff (hi : Inv s) : ReleasedOnce s ↔ s.lost = [] := by
  refine ⟨fun hs => List.eq_nil_iff_forall_not_mem.mpr fun n hn => ?_, hi.releasedOnce⟩
  exact hi.not_releasedOnce hn hs

/-- The account holds over every run in which `stop_activity` leaves `v_timer` at rest. -/
theorem inv_of_reach {ok : State → Action → Prop} (hok : ∀ s a, ok s a → AtRest s a)
    (h : machine.Reach ok t) : Inv t := by
  refine (h.invariant (I := fun s => Inv s ∧ LockExclusive s) ?_ ?_).1
  · rintro s ⟨ep, speed, rfl⟩
    exact ⟨.start, Or.inl rfl⟩
  · rintro s a t ⟨hi, hlock⟩ ha hst
    exact ⟨hi.step hlock (hok s a ha) hst, hi.lockExclusive hlock hst⟩

/-- Over any interleaving in which `stop_activity` does not free the queue while `v_timer` is in a
callback and the item of a RET_SUBMIT can be allocated, each accepted `urbp` is released once and
`v_timer` never goes on with one that was freed. -/
theorem urbp_released_once (h : machine.Reach (fun s a => AtRest s a ∧ ItemAllocated s a) t) :
    ReleasedOnce t := by
  have hI : ∀ {t}, machine.Reach (fun s a => AtRest s a ∧ ItemAllocated s a) t → Inv t :=
    fun h => inv_of_reach (fun _ _ ha => ha.1) h
  refine (hI h).releasedOnce_iff.mpr
    ((h.strengthen fun _ => hI).invariant (I := fun s => s.lost = []) ?_ ?_)
  · rintro s ⟨ep, speed, rfl⟩
    rfl
  · rintro s a t hlost ⟨⟨-, hok⟩, hi⟩ hst
    exact lost_eq_nil hi hlost hok hst

/-- A control request is in the gadget's `setup` when the connection is torn down; a bulk request
waits behind it. -/
def tornDownRun : List Action :=
  [.connect 0, .rx .top, .rx (.cmdSubmit 1 0 8), .rx .queue, .rx .top, .rx (.cmdSubmit 2 1 8),
   .rx .queue, .timer (.start 5), .timer (.visit true 1 ⟨-EINPROGRESS, 0⟩), .eventAdd,
   .rx .top, .tx .top, .eh .shutdown, .eh .stopped, .eh .stopped, .eh .lock]

/-- The callback returns before the queue is freed. -/
def quietRun : List Action :=
  tornDownRun.take 9 ++
    [.timer (.setup true 0), .timer (.transferred true 0 ⟨0, 8⟩), .eventAdd,
     .timer (.visit true 0 ⟨0, 0⟩), .timer (.transferred true 0 ⟨-EINPROGRESS, 0⟩),
     .timer (.visit true 0 ⟨0, 0⟩), .rx .top, .tx .top, .eh .shutdown, .eh .stopped, .eh .stopped,
     .eh .lock, .eh (.stopActivity true)]

/-- A control endpoint and bulk endpoints. -/
def bulkStart : State :=
  { ep := fun i => { type := if i = 0 then .control else .bulk }, speed := .high }

/-- The device of the witness is a start of the machine. -/
lemma init_bulkStart : machine.init bulkStart :=
  ⟨_, _, rfl⟩

/-- A URB that waits and one that was stopped. -/
theorem urbp_released_once_quietRun :
    ∃ t, machine.Reach (fun s a => AtRest s a ∧ ItemAllocated s a) t ∧ (t.accepted = [0, 1] ∧ t.waiting = [0] ∧
      t.stopped = [1]) ∧ ReleasedOnce t := by
  have hrun : ∃ t, machine.Reach (fun s a => AtRest s a ∧ ItemAllocated s a) t ∧
      (t.accepted = [0, 1] ∧ t.waiting = [0] ∧ t.stopped = [1]) := by
    apply Machine.Reach.of_perform quietRun init_bulkStart
    exact ⟨_, rfl, by decide⟩
  obtain ⟨t, ht, hplaces⟩ := hrun
  exact ⟨t, ht, hplaces, urbp_released_once ht⟩

/-- `stop_activity` frees the request that `v_timer` is serving, and `v_timer` goes on with it. -/
theorem resumes_with_freed_urbp :
    ¬ ∀ t, machine.Reachable t → ReleasedOnce t := by
  intro hall
  have hrun : ∃ t, machine.Reachable t ∧
      (t.timer = .transfer 0 (some 1) 53248 ∧ t.stopped = [0, 1]) := by
    apply Machine.Reach.of_perform
      (tornDownRun ++ [.eh (.stopActivity true), .timer (.setup true 0)])
      init_bulkStart
    exact ⟨_, rfl, by decide⟩
  obtain ⟨t, ht, htimer, hstopped⟩ := hrun
  have hlive := (hall t ht).live
  rw [htimer, hstopped] at hlive
  exact hlive rfl 0 (by decide) (by decide)

end Usbip.Vudc.Device
