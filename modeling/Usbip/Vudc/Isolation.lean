import Usbip.Vudc.Release

/-!
# Replies stay on their connection

What waits on `urb_queue` belongs to the connection that is up, because `vudc_shutdown` stops the
receiving thread and then frees the queue.  Nothing empties `tx_queue` in that way: a reply that
the last sending thread left there is sent by the next one (`stale_reply_sent`).  When `tx_queue`
is empty at each `store_sockfd`, every reply goes to the socket its request came from
(`replies_isolated`).
-/

namespace Usbip.Vudc.Device

open Usbip.Core Usbip.Common

variable {s t : State}

/-! ## What belongs to the connection -/

/-- Everything on the queues and in the hands of the threads belongs to the last connection, and
everything written to the one it was written to. -/
structure Current (s : State) : Prop where
  urbQueue : ∀ p ∈ s.urbQueue, p.connection = s.connection
  receiving : ∀ p, s.rx = .submit p → p.connection = s.connection
  txQueue : ∀ x ∈ s.tx.hand ++ s.txQueue, x.connection = s.connection
  wire : ∀ w ∈ s.wire, w.item.connection = w.socket
  quiet : s.connected = false → s.urbQueue = []

/-- A URB behind a framed step was queued before. -/
lemma Frame.mem_urbQueue (h : Frame s t) {p : Allocated} (hp : p ∈ t.urbQueue) :
    ∃ q ∈ s.urbQueue, q.key = p.key := by
  have hkey : p.key ∈ s.urbQueue.map Allocated.key := h.queue ▸ List.mem_map_of_mem hp
  exact List.mem_map.mp hkey

namespace Current

/-- Nothing is queued at the start. -/
lemma start {ep : Nat → Vep} {speed : Speed} : Current { ep, speed } where
  urbQueue := by simp
  receiving := fun p hp => (by cases hp)
  txQueue := by simp [TxPc.hand]
  wire := by simp
  quiet := fun _ => rfl

/-- A framed step keeps the queues current. -/
lemma frame (hc : Current s) (h : Frame s t) : Current t where
  urbQueue p hp := by
    obtain ⟨q, hq, hkey⟩ := h.mem_urbQueue hp
    have hconn : q.connection = p.connection := congrArg (fun k => k.2.1) hkey
    rw [h.connection, ← hconn]
    exact hc.urbQueue q hq
  receiving := by
    rw [h.rx, h.connection]
    exact hc.receiving
  txQueue := by
    rw [h.tx, h.txQueue, h.connection]
    exact hc.txQueue
  wire := by
    rw [h.wire]
    exact hc.wire
  quiet hconn := by
    have hqueue := h.queue
    rw [hc.quiet (h.connected ▸ hconn)] at hqueue
    exact List.map_eq_nil_iff.mp hqueue

/-- The reply of a `urbp` that leaves the queue is for the same connection. -/
theorem returnUrb (hc : Current s) {allocOk : Bool} {n : Nat} {total : Int}
    (h : returnUrb allocOk n total s = some t) : Current t := by
  obtain ⟨p, hf, -, hqueue, htxq, -, -, -, htx, hrx, -, hconnected, hconn, hwire, -⟩ :=
    returnUrb_cases h
  have hp : p ∈ s.urbQueue := List.mem_of_find?_eq_some hf
  refine ⟨fun q hq => ?_, ?_, fun x hx => ?_, ?_, fun hoff => ?_⟩
  · rw [hconn]
    exact hc.urbQueue q (List.mem_of_mem_eraseP (hqueue ▸ hq))
  · rw [hrx, hconn]
    exact hc.receiving
  · rw [htx, htxq, ← List.append_assoc] at hx
    rw [hconn]
    rcases List.mem_append.mp hx with hx | hx
    · exact hc.txQueue x hx
    · have hitem : x = replyItem p := by
        cases allocOk
        · cases hx
        · exact List.mem_singleton.mp hx
      rw [hitem, ← hc.urbQueue p hp, replyItem]
      split <;> rfl
  · rw [hwire]
    exact hc.wire
  · rw [hc.quiet (hconnected ▸ hoff)] at hp
    cases hp

/-- The timer keeps the queues current. -/
theorem timer (hc : Current s) (hi : Inv s) {a : TimerAction} (h : stepTimer s a = some t) :
    Current t := by
  rcases stepTimer_cases hi.tickets_nodup h with ⟨hframe, -⟩ | ⟨s', n, total, hframe, -, -, h⟩
  · exact hc.frame hframe
  · exact (hc.frame hframe).returnUrb h

/-- The receiving thread moves without a `urbp`. -/
lemma moveRx (hc : Current s) {pc : RxPc} (hpc : pc.held = []) (event : Bool) (allocs : Nat) :
    Current { s with rx := pc, event, allocs } := by
  refine ⟨hc.urbQueue, ?_, hc.txQueue, hc.wire, hc.quiet⟩
  rintro p rfl
  cases hpc

/-- An unlink keeps the queues current. -/
theorem cmdUnlink (hc : Current s) (allocOk : Bool) (u n : Seqnum) :
    Current (vRecvCmdUnlink allocOk u n s) := by
  rcases vRecvCmdUnlink_cases allocOk u n s with ⟨l₁, p, l₂, hq, hframe⟩ | hframe
  · refine Current.frame ?_ hframe
    refine ⟨fun q hmem => ?_, hc.receiving, hc.txQueue, hc.wire, fun hoff => ?_⟩
    · have hqueue := hc.urbQueue
      rw [hq] at hqueue
      rcases List.mem_append.mp hmem with hmem | hmem
      · exact hqueue q (List.mem_append_left _ hmem)
      rcases List.mem_cons.mp hmem with rfl | hmem
      · rfl
      · exact hqueue q (List.mem_append_right _ (List.mem_cons_of_mem _ hmem))
    · have hnil := hc.quiet hoff
      rw [hq] at hnil
      simp at hnil
  · refine Current.frame ?_ hframe
    refine ⟨hc.urbQueue, hc.receiving, fun x hx => ?_, hc.wire, hc.quiet⟩
    have hx' : x ∈ s.tx.hand ++ s.txQueue ++
        if allocOk then [Item.unlink ⟨u, 0, none⟩ s.connection] else [] := by
      rw [List.append_assoc]
      exact hx
    rcases List.mem_append.mp hx' with hx' | hx'
    · exact hc.txQueue x hx'
    · have hitem : x = Item.unlink ⟨u, 0, none⟩ s.connection := by
        cases allocOk
        · cases hx'
        · exact List.mem_singleton.mp hx'
      rw [hitem]
      rfl

/-- A submit queues a URB of its connection. -/
theorem queue (hc : Current s) (hi : Inv s) {p : Allocated} (hrx : s.rx = .submit p) :
    Current (vQueueUrbp p s) := by
  have hk := Frame.vKickTimer s
  have hkick := hc.frame hk
  refine ⟨fun q hq => ?_, hkick.receiving, hkick.txQueue, hkick.wire, fun hoff => ?_⟩
  · rcases List.mem_append.mp hq with hq | hq
    · exact hkick.urbQueue q hq
    · rw [List.mem_singleton.mp hq]
      exact (hc.receiving p hrx).trans hk.connection.symm
  · have hstopped := (hi.threads.quiet (hk.connected ▸ hoff)).1
    rw [hrx] at hstopped
    cases hstopped

/-- The receive thread keeps the queues current. -/
theorem rx (hc : Current s) (hi : Inv s) {a : RxAction} (h : stepRx s a = some t) :
    Current t := by
  cases a with
  | top =>
      simp only [stepRx] at h
      split at h <;> cases h
      refine hc.moveRx ?_ s.event s.allocs
      split <;> rfl
  | fail addsEvent =>
      simp only [stepRx] at h
      split at h <;> cases h
      exact hc.moveRx rfl _ s.allocs
  | cmdUnlink allocOk u n =>
      simp only [stepRx] at h
      split at h
      · split at h <;> cases h
        exact (hc.cmdUnlink allocOk u n).moveRx rfl _ _
      · cases h
  | cmdSubmit n i len =>
      simp only [stepRx] at h
      split at h <;> cases h
      refine ⟨hc.urbQueue, ?_, hc.txQueue, hc.wire, hc.quiet⟩
      rintro p ⟨⟩
      rfl
  | queue =>
      simp only [stepRx] at h
      split at h
      · rename_i p hrx
        split at h <;> cases h
        exact (hc.queue hi hrx).moveRx rfl _ _
      · cases h
  | submitFail addsEvent =>
      simp only [stepRx] at h
      split at h <;> cases h
      exact hc.moveRx rfl _ s.allocs

/-- The transmit thread keeps the queues current. -/
theorem tx (hc : Current s) {a : TxAction} (h : stepTx s a = some t) : Current t := by
  have hqueue := hc.txQueue
  cases a with
  | top =>
      simp only [stepTx] at h
      split at h <;> cases h
      rename_i htx
      rw [htx] at hqueue
      refine ⟨hc.urbQueue, hc.receiving, ?_, hc.wire, hc.quiet⟩
      dsimp only
      split <;> exact hqueue
  | send sendOk =>
      simp only [stepTx] at h
      split at h
      · rename_i htx
        rw [htx] at hqueue
        split at h <;> cases h
        · rename_i x rest hq
          rw [hq] at hqueue
          exact ⟨hc.urbQueue, hc.receiving, hqueue, hc.wire, hc.quiet⟩
        · exact ⟨hc.urbQueue, hc.receiving, hqueue, hc.wire, hc.quiet⟩
      · rename_i x htx
        rw [htx] at hqueue
        have hrest : ∀ y ∈ s.txQueue, y.connection = s.connection := fun y hy =>
          hqueue y (List.mem_append_right _ hy)
        split at h <;> cases h
        · refine ⟨hc.urbQueue, hc.receiving, hrest, fun w hw => ?_, hc.quiet⟩
          rcases List.mem_append.mp hw with hw | hw
          · exact hc.wire w hw
          · rw [List.mem_singleton.mp hw]
            exact hqueue x List.mem_cons_self
        · exact ⟨hc.urbQueue, hc.receiving, hrest, hc.wire, hc.quiet⟩
      · cases h

/-- `vudc_shutdown` disconnects in the section in which it frees the queue. -/
theorem eh (hc : Current s) {a : EhAction} (h : stepEh s a = some t) : Current t := by
  rcases stepEh_cases h with hmove | ⟨event, rfl, ⟨-, rfl⟩ | ⟨-, rfl⟩⟩
  · have hc' : Current { s with eh := t.eh } :=
      ⟨hc.urbQueue, hc.receiving, hc.txQueue, hc.wire, hc.quiet⟩
    exact hc'.frame hmove.frame
  · exact ⟨by simp [stopActivity], hc.receiving, hc.txQueue, hc.wire, fun _ => rfl⟩
  · exact ⟨by simp [stopActivity], hc.receiving, hc.txQueue, hc.wire, fun _ => rfl⟩

/-- A new connection starts with nothing of the old ones, as far as `tx_queue` is empty. -/
theorem connect (hc : Current s) (now : Int) (hoff : s.connected = false)
    (hempty : s.txQueue = []) : Current (storeSockfd now s) := by
  have hs := Frame.vStartTimer now s
  have hqueue : (storeSockfd now s).urbQueue = [] := (hc.frame hs).quiet (hs.connected.trans hoff)
  have htxq : (storeSockfd now s).txQueue = [] := hs.txQueue.trans hempty
  refine ⟨?_, fun p hp => (by cases hp), ?_, (hc.frame hs).wire, fun h => (by cases h)⟩
  · rw [hqueue]
    simp
  · rw [htxq]
    simp [storeSockfd, TxPc.hand]

end Current

/-! ## No reply goes to a later connection -/

/-- No reply that answers a request of one connection was written to the socket of a later one. -/
def Isolated (s : State) : Prop :=
  ∀ w ∈ s.wire, ¬ w.item.connection < w.socket

/-- No reply is left on `tx_queue` when a connection is made. -/
def CleanStart (s : State) : Action → Prop
  | .connect _ => s.txQueue = []
  | _ => True

instance (s : State) (a : Action) : Decidable (CleanStart s a) :=
  match a with
  | .connect _ => inferInstanceAs (Decidable (_ = _))
  | .eventAdd | .gadget _ _ | .timer _ | .rx _ | .tx _ | .eh _ => isTrue trivial

/-- Every step keeps the queues current, when a connection starts clean. -/
theorem Current.step (hc : Current s) (hi : Inv s) {a : Action} (hok : CleanStart s a)
    (hst : step s a = some t) : Current t := by
  cases a with
  | eventAdd =>
      obtain rfl := Option.some.inj hst
      exact hc.frame (by constructor <;> rfl)
  | gadget ep speed =>
      simp only [Device.step] at hst
      split at hst <;> cases hst
      exact hc.frame (by constructor <;> rfl)
  | connect now =>
      simp only [Device.step] at hst
      split at hst <;> cases hst
      rename_i hcond
      exact hc.connect now (by simpa using hcond.2.2.1) hok
  | timer a => exact hc.timer hi hst
  | rx a => exact hc.rx hi hst
  | tx a => exact hc.tx hst
  | eh a => exact hc.eh hst

/-- Over any number of connections, in runs in which `tx_queue` is empty whenever one is made and
`stop_activity` does not free the queue while `v_timer` is in a callback, every reply is written to
the connection its request came on. -/
theorem replies_isolated (h : machine.Reach (fun s a => AtRest s a ∧ CleanStart s a) t) :
    Isolated t := by
  have hI : ∀ {t}, machine.Reach (fun s a => AtRest s a ∧ CleanStart s a) t → Inv t :=
    fun h => inv_of_reach (fun _ _ ha => ha.1) h
  have hc : Current t := by
    refine (h.strengthen fun _ => hI).invariant ?_ ?_
    · rintro s ⟨ep, speed, rfl⟩
      exact .start
    · rintro s a t hc ⟨⟨-, hok⟩, hi⟩ hst
      exact hc.step hi hok hst
  intro w hw
  rw [hc.wire w hw]
  exact lt_irrefl _

/-- The event handler ends one connection, and the next one is made. -/
def reconnect : List Action :=
  [.eventAdd, .rx .top, .tx .top, .eh .shutdown, .eh .stopped, .eh .stopped, .eh .lock,
   .eh (.stopActivity true), .eh .reset, .eh .lock, .eh (.stopActivity true), .eh (.available false),
   .connect 9]

/-- A request is received and served, its reply waiting for the sending thread. -/
def served (n : Seqnum) (now : Int) : List Action :=
  [.rx .top, .rx (.cmdSubmit n 1 8), .rx .queue, .timer (.start now), .timer (.visit true 0 ⟨0, 0⟩),
   .timer (.transferred true 8 ⟨0, 8⟩), .timer (.visit true 0 ⟨0, 0⟩)]

def replied : List Action :=
  [.tx .top, .tx (.send true), .tx (.send true), .tx (.send true)]

/-- Two connections, each with its own reply. -/
theorem replies_isolated_reconnect :
    ∃ t, machine.Reach (fun s a => AtRest s a ∧ CleanStart s a) t ∧
      t.wire.map (fun w => (w.socket, w.item.connection)) = [(1, 1), (2, 2)] ∧ Isolated t := by
  have hrun : ∃ t, machine.Reach (fun s a => AtRest s a ∧ CleanStart s a) t ∧
      t.wire.map (fun w => (w.socket, w.item.connection)) = [(1, 1), (2, 2)] := by
    apply Machine.Reach.of_perform
      ([.connect 0] ++ served 1 5 ++ replied ++ reconnect ++ served 1 15 ++ replied) init_bulkStart
    exact ⟨_, rfl, by decide⟩
  obtain ⟨t, ht, hwire⟩ := hrun
  exact ⟨t, ht, hwire, replies_isolated ht⟩

/-- The first connection ends before its sending thread has looked at `tx_queue`; the second one
sends the reply. -/
theorem stale_reply_sent : ¬ ∀ t, machine.Reachable t → Isolated t := by
  intro hall
  have hrun : ∃ t, machine.Reachable t ∧
      t.wire.map (fun w => (w.socket, w.item.connection)) = [(2, 1)] := by
    apply Machine.Reach.of_perform ([.connect 0] ++ served 1 5 ++ reconnect ++ replied)
      init_bulkStart
    exact ⟨_, rfl, by decide⟩
  obtain ⟨t, ht, hwire⟩ := hrun
  obtain ⟨w, hw, hpair⟩ : ∃ w ∈ t.wire, (w.socket, w.item.connection) = (2, 1) := by
    rw [← List.mem_map, hwire]
    exact List.mem_singleton_self _
  rw [Prod.mk.injEq] at hpair
  refine hall t ht w hw ?_
  rw [hpair.1, hpair.2]
  decide

end Usbip.Vudc.Device
