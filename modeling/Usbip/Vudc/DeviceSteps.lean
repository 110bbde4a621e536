import Usbip.Vudc.Device

/-!
# What one step of the vudc does

The step function of the device is opened here once.  Most of what `v_timer` and the gadget driver
do leaves the queues and their history alone (`Frame`); a step of `v_timer` that is not of this kind
ends a URB (`stepTimer_cases`, `returnUrb_cases`), and a step of the event handler moves it on or
frees the queue (`stepEh_cases`).  The threads run only while the device is connected (`Threads`),
and `v_timer` and the event handler do not both hold the lock (`LockExclusive`).
-/

namespace Usbip.Vudc.Device

open Usbip.Core Usbip.Common

variable {s t r : State}

/-! ## What the steps leave alone -/

/-- What identifies a `urbp` and decides who frees it. -/
def Allocated.key (p : Allocated) : Nat × Nat × BitVec 32 :=
  (p.ticket, p.connection, p.unlinked)

/-- The tickets of the `urbp`s on `urb_queue`. -/
def State.tickets (s : State) : List Nat :=
  s.urbQueue.map Allocated.ticket

/-- `t` differs from `s` in what `v_timer` and the gadget driver do without ending a URB. -/
structure Frame (s t : State) : Prop where
  queue : t.urbQueue.map Allocated.key = s.urbQueue.map Allocated.key
  txQueue : t.txQueue = s.txQueue
  tx : t.tx = s.tx
  rx : t.rx = s.rx
  eh : t.eh = s.eh
  connected : t.connected = s.connected
  connection : t.connection = s.connection
  wire : t.wire = s.wire
  allocs : t.allocs = s.allocs
  accepted : t.accepted = s.accepted
  stopped : t.stopped = s.stopped
  taken : t.taken = s.taken
  released : t.released = s.released
  lost : t.lost = s.lost

namespace Frame

/-- Nothing changed is framed. -/
lemma refl (s : State) : Frame s s := by
  constructor <;> rfl

/-- Frames compose. -/
lemma trans (h : Frame s t) (h' : Frame t r) : Frame s r where
  queue := h'.queue.trans h.queue
  txQueue := h'.txQueue.trans h.txQueue
  tx := h'.tx.trans h.tx
  rx := h'.rx.trans h.rx
  eh := h'.eh.trans h.eh
  connected := h'.connected.trans h.connected
  connection := h'.connection.trans h.connection
  wire := h'.wire.trans h.wire
  allocs := h'.allocs.trans h.allocs
  accepted := h'.accepted.trans h.accepted
  stopped := h'.stopped.trans h.stopped
  taken := h'.taken.trans h.taken
  released := h'.released.trans h.released
  lost := h'.lost.trans h.lost

/-- A framed step leaves the queue of URBs. -/
lemma tickets (h : Frame s t) : t.tickets = s.tickets := by
  have hmap := congrArg (List.map Prod.fst) h.queue
  rwa [List.map_map, List.map_map] at hmap

/-- A framed step leaves the key of each URB. -/
lemma find?_key (h : Frame s t) (n : Nat) :
    (t.urbQueue.find? fun p => p.ticket = n).map Allocated.key =
      (s.urbQueue.find? fun p => p.ticket = n).map Allocated.key := by
  have hfind := congrArg (List.find? fun k => k.1 = n) h.queue
  rwa [List.find?_map, List.find?_map] at hfind

/-- Moving the timer is framed. -/
lemma timer (s : State) (pc : TimerPc) : Frame s { s with timer := pc } := by
  constructor <;> rfl

/-- Kicking the timer is framed. -/
lemma vKickTimer (s : State) : Frame s (vKickTimer s) := by
  unfold Device.vKickTimer
  split <;> constructor <;> rfl

/-- Starting the timer is framed. -/
lemma vStartTimer (now : Int) (s : State) : Frame s (vStartTimer now s) := by
  unfold Device.vStartTimer
  split
  · exact refl s
  · exact vKickTimer s
  · refine trans ?_ (vKickTimer _)
    constructor <;> rfl

/-- Writing to a URB, as long as `unlinked` is not touched. -/
lemma writeUrbp (n : Nat) {f : Urbp → Urbp} (s : State)
    (hf : ∀ p ∈ s.urbQueue, p.ticket = n → (f p.toUrbp).unlinked = p.unlinked) :
    Frame s (writeUrbp n f s) := by
  refine ⟨?_, rfl, rfl, rfl, rfl, rfl, rfl, rfl, rfl, rfl, rfl, rfl, rfl, rfl⟩
  show (s.urbQueue.map _).map Allocated.key = _
  rw [List.map_map]
  refine List.map_congr_left fun p hp => ?_
  simp only [Function.comp_apply]
  split
  · rename_i hn
    simp only [Allocated.key, hf p hp hn]
  · rfl

end Frame

/-- Kicking the timer leaves its place. -/
lemma vKickTimer_timer (s : State) : (vKickTimer s).timer = s.timer := by
  unfold vKickTimer
  split <;> rfl

/-- Starting the timer leaves its place. -/
lemma vStartTimer_timer (now : Int) (s : State) : (vStartTimer now s).timer = s.timer := by
  unfold vStartTimer
  split
  · rfl
  · exact vKickTimer_timer s
  · exact vKickTimer_timer _

/-- A visit leaves the unlink's number. -/
lemma visitUrbp_unlinked (running : Bool) (total ret : Int) (w : Progress) (ep : Nat → Vep)
    (p : Urbp) : (visitUrbp running total ret w ep p).2.1.unlinked = p.unlinked := by
  unfold visitUrbp
  split
  · rfl
  split
  · rfl
  cases p.ep with
  | none => rfl
  | some i =>
      dsimp only
      generalize hq : (if i = 0 ∧ p.new = true then _ else p : Urbp) = q
      have hunlinked : q.unlinked = p.unlinked := by
        rw [← hq]
        split <;> rfl
      generalize (if i = 0 ∧ p.new = true then _ else _ : Vep) = e
      split
      · rfl
      split
      · rfl
      split
      · exact hunlinked
      split
      · split
        · exact hunlinked
        split <;> exact hunlinked
      · split <;> exact hunlinked

/-! ## The steps of `v_timer` -/

/-- The item that `queueReply` puts on `tx_queue`. -/
def replyItem (p : Allocated) : Item :=
  if p.unlinked = 0 then .submit p
  else .unlink ⟨p.seqnum, p.unlinked, some p.origin⟩ p.connection

/-- What `return_urb` does. -/
lemma returnUrb_cases {allocOk : Bool} {n : Nat} {total : Int}
    (h : returnUrb allocOk n total s = some t) :
    ∃ p, s.urbQueue.find? (fun p => p.ticket = n) = some p ∧ p.ticket = n ∧
      t.urbQueue = s.urbQueue.eraseP (fun p => p.ticket = n) ∧
      t.txQueue = s.txQueue ++ (if allocOk then [replyItem p] else []) ∧
      t.taken = s.taken ++ [n] ∧
      t.released = s.released ++ (if p.unlinked = 0 then [] else [n]) ∧
      t.lost = s.lost ++ (if p.unlinked = 0 ∧ allocOk = false then [n] else []) ∧
      t.tx = s.tx ∧ t.rx = s.rx ∧ t.eh = s.eh ∧ t.connected = s.connected ∧
      t.connection = s.connection ∧ t.wire = s.wire ∧ t.allocs = s.allocs ∧
      t.accepted = s.accepted ∧ t.stopped = s.stopped ∧
      t.timer = .visit (t.urbQueue.head?.map Allocated.ticket) total := by
  unfold returnUrb at h
  cases hf : s.urbQueue.find? (fun p => p.ticket = n) with
  | none => simp [hf] at h
  | some p =>
      have hp : p.ticket = n := by simpa using List.find?_some hf
      rw [hf] at h
      refine ⟨p, rfl, hp, ?_⟩
      obtain rfl := Option.some.inj h
      have hforget : ∀ s' : State, forgetEp p.ep s' = { s' with ep := (forgetEp p.ep s').ep } := by
        intro s'
        cases p.ep <;> rfl
      rw [hforget]
      unfold queueReply replyItem vEnqueueRetSubmit vEnqueueRetUnlink
      by_cases hu : p.unlinked = 0
      · simp only [if_pos hu]
        cases allocOk <;> simp [hp, show p.unlinked = 0#32 from hu]
      · simp only [if_neg hu]
        cases allocOk <;> simp [hp, show ¬ p.unlinked = 0#32 from hu]

/-- A URB that is found is queued. -/
lemma mem_tickets_of_find? {n : Nat} {p : Allocated}
    (h : s.urbQueue.find? (fun p => p.ticket = n) = some p) : n ∈ s.tickets := by
  have hp : p.ticket = n := by simpa using List.find?_some h
  exact hp ▸ List.mem_map_of_mem (List.mem_of_find?_eq_some h)

/-- The next URB is queued. -/
lemma mem_of_nextUrbp {n m : Nat} {l : List Allocated} (h : nextUrbp n l = some m) :
    m ∈ l.map Allocated.ticket := by
  induction l with
  | nil => cases h
  | cons p rest ih =>
      unfold nextUrbp at h
      split at h
      · rw [Option.map_eq_some_iff] at h
        obtain ⟨q, hq, rfl⟩ := h
        exact List.mem_cons_of_mem _ (List.mem_map_of_mem (List.mem_of_mem_head? hq))
      · exact List.mem_cons_of_mem _ (ih h)

/-- The allocation of the reply in a step of `v_timer`. -/
def TimerAction.allocOk : TimerAction → Bool
  | visit allocOk _ _ | setup allocOk _ | transferred allocOk _ _ => allocOk
  | start _ | giveback _ | resume => true

/-- The current `urbp` of `v_timer`. -/
def TimerPc.cur : TimerPc → Option Nat
  | idle => none
  | visit cur _ => cur
  | setup cur _ _ | transfer cur _ _ | giveback cur _ _ => some cur

/-- A step of `v_timer` that does not end a URB moves to a `urbp` it had in hand or found on the
queue; the others go through `return_urb` with the current one. -/
lemma stepTimer_cases {a : TimerAction} (hnodup : s.tickets.Nodup) (h : stepTimer s a = some t) :
    (Frame s t ∧ ∀ n ∈ t.timer.urbps, n ∈ s.timer.urbps ∨ n ∈ s.tickets) ∨
      ∃ s' n total, Frame s s' ∧ s'.timer = s.timer ∧ s.timer.cur = some n ∧
        returnUrb a.allocOk n total s' = some t := by
  cases a with
  | start now =>
      left
      simp only [stepTimer] at h
      split at h
      · rename_i hidle
        split at h <;> cases h
        unfold vTimerStart
        dsimp only
        split
        · exact ⟨by constructor <;> rfl, fun n hn => Or.inl hn⟩
        · refine ⟨by constructor <;> rfl, fun n hn => Or.inr ?_⟩
          simp only [TimerPc.urbps, Option.mem_toList, Option.map_eq_some_iff] at hn
          obtain ⟨p, hp, rfl⟩ := hn
          exact List.mem_map_of_mem (List.mem_of_mem_head? hp)
      · cases h
  | visit allocOk ret w =>
      simp only [stepTimer] at h
      split at h
      · obtain rfl := Option.some.inj h
        left
        unfold vTimerEnd
        split <;> exact ⟨by constructor <;> rfl, by simp [TimerPc.urbps]⟩
      · rename_i n total hpc
        unfold vTimerVisit at h
        cases hf : s.urbQueue.find? (fun p => p.ticket = n) with
        | none => simp [hf] at h
        | some p =>
            rw [hf] at h
            dsimp only at h
            generalize hv : visitUrbp _ total ret w s.ep p.toUrbp = v at h
            obtain ⟨ep, q, goto⟩ := v
            have hq : q.unlinked = p.unlinked := by
              have hkeep := visitUrbp_unlinked (s.trState = .running) total ret w s.ep p.toUrbp
              rwa [hv] at hkeep
            have hp : p.ticket = n := by simpa using List.find?_some hf
            have hframe : Frame s (writeUrbp n (fun _ => q) { s with ep }) := by
              refine Frame.trans (t := { s with ep }) (by constructor <;> rfl) (.writeUrbp n _ ?_)
              intro p' hp' hticket
              have heq : p' = p := eq_of_nodup_map hnodup hp' (List.mem_of_find?_eq_some hf)
                (hticket.trans hp.symm)
              rw [hq, heq]
            have hcur : n ∈ s.tickets := mem_tickets_of_find? hf
            have hnext : ∀ m ∈ (nextUrbp n s.urbQueue).toList, m ∈ s.tickets := by
              intro m hm
              exact mem_of_nextUrbp (Option.mem_toList.mp hm)
            cases goto with
            | skip =>
                obtain rfl := Option.some.inj h
                exact Or.inl ⟨hframe.trans (.timer _ _), fun m hm => Or.inr (hnext m hm)⟩
            | setup | transfer =>
                obtain rfl := Option.some.inj h
                refine Or.inl ⟨hframe.trans (.timer _ _), fun m hm => Or.inr ?_⟩
                rcases List.mem_cons.mp hm with rfl | hm
                · exact hcur
                · exact hnext m hm
            | returnUrb => exact Or.inr ⟨_, n, total, hframe, rfl, by rw [hpc]; rfl, h⟩
      · cases h
  | setup allocOk ret =>
      simp only [stepTimer] at h
      split at h
      · rename_i n next total hpc
        split at h
        · cases h
        split at h
        · obtain rfl := Option.some.inj h
          left
          refine ⟨.timer s _, fun m hm => Or.inl ?_⟩
          rw [hpc]
          exact hm
        · right
          exact ⟨_, n, total, .writeUrbp n s fun p _ _ => rfl, rfl, by rw [hpc]; rfl, h⟩
      · cases h
  | giveback w =>
      simp only [stepTimer] at h
      split at h
      · rename_i n next total hpc
        obtain rfl := Option.some.inj h
        left
        refine ⟨(Frame.writeUrbp n s fun p _ _ => rfl).trans (.timer _ _), fun m hm => Or.inl ?_⟩
        rw [hpc]
        exact hm
      · cases h
  | resume =>
      simp only [stepTimer] at h
      split at h
      · rename_i n next total hpc
        split at h <;> cases h
        left
        refine ⟨.timer s _, fun m hm => Or.inl ?_⟩
        rw [hpc]
        exact hm
      · cases h
  | transferred allocOk sent w =>
      simp only [stepTimer] at h
      split at h
      · rename_i n next total hpc
        split at h
        · obtain rfl := Option.some.inj h
          left
          refine ⟨(Frame.writeUrbp n s fun p _ _ => rfl).trans (.timer _ _),
            fun m hm => Or.inl ?_⟩
          rw [hpc]
          exact List.mem_cons_of_mem _ hm
        · right
          exact ⟨_, n, _, .writeUrbp n s fun p _ _ => rfl, rfl, by rw [hpc]; rfl, h⟩
      · cases h

/-- A CMD_UNLINK marks a `urbp` or queues its RET_UNLINK at once. -/
lemma vRecvCmdUnlink_cases (allocOk : Bool) (u n : Seqnum) (s : State) :
    (∃ l₁ p l₂, s.urbQueue = l₁ ++ p :: l₂ ∧
      Frame { s with urbQueue := l₁ ++ p.unlink u s.connection :: l₂ }
        (vRecvCmdUnlink allocOk u n s)) ∨
      Frame { s with txQueue := s.txQueue ++
        if allocOk then [.unlink ⟨u, 0, none⟩ s.connection] else [] }
        (vRecvCmdUnlink allocOk u n s) := by
  unfold vRecvCmdUnlink
  split
  · rename_i q hup
    obtain ⟨l₁, p, l₂, hq, -, -, rfl⟩ := updateFirst_eq_some hup
    exact Or.inl ⟨l₁, p, l₂, hq, .vKickTimer _⟩
  · right
    unfold vEnqueueRetUnlink
    split <;> constructor <;> simp

/-- An unlink leaves the timer. -/
lemma vRecvCmdUnlink_timer (allocOk : Bool) (u n : Seqnum) (s : State) :
    (vRecvCmdUnlink allocOk u n s).timer = s.timer := by
  unfold vRecvCmdUnlink vEnqueueRetUnlink
  split
  · exact vKickTimer_timer _
  · split <;> rfl

/-! ## The threads -/

/-- The event handler has seen the receiving thread end. -/
def EhPc.rxStopped : EhPc → Bool
  | stopTx | lock .shutdown | nuke .shutdown | nukeGiveback .shutdown => true
  | idle | stopRx | lock .reset | nuke .reset | nukeGiveback .reset | reset => false

/-- The event handler has seen the sending thread end. -/
def EhPc.txStopped : EhPc → Bool
  | lock .shutdown | nuke .shutdown | nukeGiveback .shutdown => true
  | idle | stopRx | stopTx | lock .reset | nuke .reset | nukeGiveback .reset | reset => false

/-- The threads run only while the device is connected, and not past the point where
`vudc_shutdown` has waited for them. -/
structure Threads (s : State) : Prop where
  quiet : s.connected = false → s.rx = .stopped ∧ s.tx = .stopped
  rx_stopped : s.eh.rxStopped = true → s.rx = .stopped
  tx_stopped : s.eh.txStopped = true → s.tx = .stopped

/-- A framed step keeps the threads in their places. -/
lemma Threads.frame (hi : Threads s) (h : Frame s t) : Threads t := by
  obtain ⟨hquiet, hrx, htx⟩ := hi
  constructor <;> simp only [h.connected, h.rx, h.tx, h.eh] <;> assumption

/-- A receiving thread that runs may move. -/
lemma Threads.moveRx (hi : Threads s) (hrx : s.rx ≠ .stopped) (htx : t.tx = s.tx)
    (heh : t.eh = s.eh) (hconn : t.connected = s.connected) : Threads t where
  quiet h := absurd (hi.quiet (hconn ▸ h)).1 hrx
  rx_stopped h := absurd (hi.rx_stopped (heh ▸ h)) hrx
  tx_stopped h := htx.trans (hi.tx_stopped (heh ▸ h))

/-- A sending thread that runs may move. -/
lemma Threads.moveTx (hi : Threads s) (htx : s.tx ≠ .stopped) (hrx : t.rx = s.rx)
    (heh : t.eh = s.eh) (hconn : t.connected = s.connected) : Threads t where
  quiet h := absurd (hi.quiet (hconn ▸ h)).2 htx
  rx_stopped h := hrx.trans (hi.rx_stopped (heh ▸ h))
  tx_stopped h := absurd (hi.tx_stopped (heh ▸ h)) htx

/-- A store keeps the threads in their places. -/
lemma Threads.connect (now : Int) (heh : s.eh = .idle) : Threads (storeSockfd now s) := by
  have hidle : (storeSockfd now s).eh = .idle := (Frame.vStartTimer now s).eh.trans heh
  refine ⟨fun h => (by cases h), fun h => ?_, fun h => ?_⟩
  · rw [hidle] at h
    cases h
  · rw [hidle] at h
    cases h

/-! ## The steps of the event handler -/

/-- The event handler moves on without touching the queues; it has waited for the threads. -/
structure EhMove (s t : State) : Prop where
  frame : Frame { s with eh := t.eh } t
  timer : t.timer = s.timer
  rx_stopped : t.eh.rxStopped = true → s.rx = .stopped ∨ s.eh.rxStopped = true
  tx_stopped : t.eh.txStopped = true → s.tx = .stopped ∨ s.eh.txStopped = true

/-- A step of the event handler moves it on, or frees the queue at the end of `stop_activity`. -/
lemma stepEh_cases {a : EhAction} (h : stepEh s a = some t) :
    EhMove s t ∨ ∃ event, a = .stopActivity event ∧
      (s.eh = .nuke .shutdown ∧
          t = { stopActivity s with eh := .idle, connected := false, event } ∨
        s.eh = .nuke .reset ∧ t = { stopActivity s with eh := .reset }) := by
  have hmove : ∀ {eh : EhPc} {status : Status} {event : Bool},
      (eh.rxStopped = true → s.rx = .stopped ∨ s.eh.rxStopped = true) →
      (eh.txStopped = true → s.tx = .stopped ∨ s.eh.txStopped = true) →
      EhMove s { s with eh, status, event } := by
    intro eh status event hrx htx
    exact ⟨by constructor <;> rfl, rfl, hrx, htx⟩
  cases a with
  | shutdown | reset =>
      left
      simp only [stepEh] at h
      split at h <;> cases h
      exact hmove (fun h => (by cases h)) (fun h => (by cases h))
  | stopped =>
      left
      simp only [stepEh] at h
      split at h
      · split at h <;> cases h
        rename_i hrx
        exact hmove (fun _ => Or.inl hrx) (fun h => (by cases h))
      · rename_i heh
        split at h <;> cases h
        rename_i htx
        exact hmove (fun _ => Or.inr (by rw [heh]; rfl)) (fun _ => Or.inl htx)
      · cases h
  | unusable event =>
      left
      simp only [stepEh] at h
      split at h <;> cases h
      exact hmove Or.inr Or.inr
  | available event =>
      left
      simp only [stepEh] at h
      split at h <;> cases h
      exact hmove (fun h => (by cases h)) (fun h => (by cases h))
  | lock =>
      left
      simp only [stepEh] at h
      split at h
      all_goals first | cases h | rename_i caller heh
      all_goals
        split at h <;> cases h
        refine hmove (fun h => Or.inr ?_) (fun h => Or.inr ?_)
        all_goals
          rw [heh]
          cases caller <;> exact h
  | nuke =>
      left
      simp only [stepEh] at h
      split at h <;> cases h
      rename_i caller heh
      refine hmove (fun h => Or.inr ?_) (fun h => Or.inr ?_)
      all_goals
        rw [heh]
        cases caller <;> exact h
  | stopActivity event =>
      right
      refine ⟨event, rfl, ?_⟩
      simp only [stepEh] at h
      split at h <;> cases h
      · exact Or.inl ⟨by assumption, rfl⟩
      · exact Or.inr ⟨by assumption, rfl⟩

/-! ## The lock -/

/-- The other threads leave `v_timer` and the event handler where they are. -/
lemma stepRx_keeps {a : RxAction} (h : stepRx s a = some t) :
    t.timer = s.timer ∧ t.eh = s.eh ∧ t.lost = s.lost := by
  cases a with
  | cmdUnlink allocOk u n =>
      simp only [stepRx] at h
      split at h
      · split at h <;> cases h
        refine ⟨vRecvCmdUnlink_timer allocOk u n s, ?_⟩
        rcases vRecvCmdUnlink_cases allocOk u n s with ⟨_, _, _, _, hframe⟩ | hframe <;>
          exact ⟨hframe.eh, hframe.lost⟩
      · cases h
  | queue =>
      simp only [stepRx] at h
      split at h
      · split at h <;> cases h
        exact ⟨vKickTimer_timer s, (Frame.vKickTimer s).eh, (Frame.vKickTimer s).lost⟩
      · cases h
  | top | fail _ | cmdSubmit _ _ _ | submitFail _ =>
      simp only [stepRx] at h
      split at h <;> cases h
      exact ⟨rfl, rfl, rfl⟩

/-- The transmit thread leaves the timer, the handler and what is lost. -/
lemma stepTx_keeps {a : TxAction} (h : stepTx s a = some t) :
    t.timer = s.timer ∧ t.eh = s.eh ∧ t.lost = s.lost := by
  cases a with
  | top =>
      simp only [stepTx] at h
      split at h <;> cases h
      exact ⟨rfl, rfl, rfl⟩
  | send sendOk =>
      simp only [stepTx] at h
      split at h
      · split at h <;> cases h <;> exact ⟨rfl, rfl, rfl⟩
      · split at h <;> cases h <;> exact ⟨rfl, rfl, rfl⟩
      · cases h

/-- A step of `v_timer` starts with the lock free or held by `v_timer`. -/
lemma stepTimer_lock {a : TimerAction} (h : stepTimer s a = some t)
    (hlock : s.timer.unlocked = true ∨ s.eh.unlocked = true) : s.eh.unlocked = true := by
  have hfree : s.lockFree = true → s.eh.unlocked = true := fun hfree =>
    (Bool.and_eq_true_iff.mp hfree).2
  cases a with
  | start now =>
      simp only [stepTimer] at h
      split at h
      · split at h
        · rename_i hc
          exact hfree hc.2
        · cases h
      · cases h
  | setup allocOk ret =>
      simp only [stepTimer] at h
      split at h
      · split at h
        · cases h
        · rename_i hc
          exact hfree (by simpa using hc)
      · cases h
  | resume =>
      simp only [stepTimer] at h
      split at h
      · split at h
        · rename_i hc
          exact hfree hc
        · cases h
      · cases h
  | visit _ _ _ | giveback _ | transferred _ _ _ =>
      refine hlock.resolve_left fun hpc => ?_
      simp only [stepTimer] at h
      split at h <;> simp_all [TimerPc.unlocked]

/-- `v_timer` and the event handler do not both hold the lock. -/
def LockExclusive (s : State) : Prop :=
  s.timer.unlocked = true ∨ s.eh.unlocked = true

/-- A step of the event handler ends without the lock or began with `v_timer` not holding it. -/
lemma stepEh_lock {a : EhAction} (h : stepEh s a = some t) (hlock : LockExclusive s) :
    LockExclusive t := by
  cases a with
  | lock =>
      simp only [stepEh] at h
      split at h
      all_goals first | cases h | skip
      all_goals
        split at h <;> cases h
        rename_i hfree
        exact Or.inl (Bool.and_eq_true_iff.mp hfree).1
  | unusable event =>
      simp only [stepEh] at h
      split at h <;> cases h
      exact hlock
  | stopped =>
      simp only [stepEh] at h
      split at h
      · split at h <;> cases h
        exact Or.inr rfl
      · split at h <;> cases h
        exact Or.inr rfl
      · cases h
  | shutdown | reset | nuke | stopActivity _ | available _ =>
      simp only [stepEh] at h
      split at h <;> cases h <;> exact Or.inr rfl

end Usbip.Vudc.Device
