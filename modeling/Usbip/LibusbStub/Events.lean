import Usbip.Event.Machine

/-!
# How a session of the libusb stub ends

`stub_try_transfer` starts three threads and waits for them: the event thread, which sleeps on the
mutex `eh_waitq` until `usbip_event_add` unlocks it, and the two threads that receive and send.  An
event is what ends a session: `stub_shutdown` tells all three threads to stop.

A step is one access to what the threads share.  Nothing is held between the two sections of
`usbip_event_add`, the one that sets the bits and the one that unlocks the mutex, and the event
thread locks the mutex on its own at every turn of its loop, so an unlock can come before the lock
that it is to end.

* `event_thread_awake`: the event thread never sleeps while there is an event to handle.
* `session_ends`: once an event was added, the event thread returns after a bounded number of its
  own steps; no thread but the one that receives can be stuck before it has returned.
* `unlock_after_destroy`: the mutex may be destroyed before the last thread has unlocked it.
-/

namespace Usbip.LibusbStub.Events

open Usbip.Core Usbip.Event

/-- Source: `stub_common.h`, `SDEV_EVENT_ERROR_TCP`, `SDEV_EVENT_ERROR_SUBMIT`,
`SDEV_EVENT_ERROR_MALLOC`. -/
inductive SdevEvent
  | errorTcp
  | errorSubmit
  | errorMalloc
  deriving DecidableEq

def SdevEvent.code : SdevEvent → BitVec 64
  | .errorTcp | .errorSubmit => usbipEhShutdown ||| usbipEhReset
  | .errorMalloc => usbipEhShutdown ||| usbipEhUnusable

/-- The position of `event_handler_loop`, with the bits that `event_get` has returned. -/
inductive EhPc
  /-- At the condition of the loop. -/
  | test
  /-- At `pthread_mutex_lock(&ud->eh_waitq)`. -/
  | lock
  /-- At `event_get`. -/
  | get
  /-- At the `if` of an operation. -/
  | at (event : BitVec 64) (op : EhOp)
  /-- In `stub_shutdown`, at `sdev->should_stop = 1`. -/
  | stopThreads (event : BitVec 64)
  /-- In `usbip_stop_eh`, at `ud->eh_should_stop = 1`. -/
  | stopEh (event : BitVec 64)
  /-- In `usbip_stop_eh`, at `pthread_mutex_unlock`. -/
  | wakeUp (event : BitVec 64)
  /-- In `stub_device_reset` or `stub_device_unusable`. -/
  | running (event : BitVec 64) (op : EhOp)
  /-- At the `if` of `USBIP_EH_BYE`. -/
  | bye (event : BitVec 64)
  | returned
  deriving DecidableEq

/-- The position of `stub_rx_loop`. -/
inductive RxPc
  | test
  /-- At `usbip_event_happened`. -/
  | happened
  /-- In `stub_rx_pdu`. -/
  | pdu
  /-- In `stub_rx_pdu` and there in `usbip_event_add`, past the bits. -/
  | unlock
  | returned
  deriving DecidableEq

/-- The position of `stub_tx_loop`. -/
inductive TxPc
  | test
  /-- In `poll_events_and_complete`. -/
  | poll
  /-- In `poll_events_and_complete` and there in `usbip_event_add`, past the bits. -/
  | unlockPoll
  | happened
  /-- In `stub_send_ret_submit` or `stub_send_ret_unlink`. -/
  | send
  /-- There in `usbip_event_add`, past the bits, and about to fail. -/
  | unlockSend
  | returned
  deriving DecidableEq

/-- The position of `stub_try_transfer`, once the threads are started. -/
inductive MainPc
  /-- In `usbip_join_eh`. -/
  | joinEh
  /-- There at `pthread_mutex_destroy(&ud->eh_waitq)`. -/
  | destroy
  | joinTx
  | joinRx
  /-- At `stub_device_cleanup_transfers` and `stub_device_cleanup_unlinks`. -/
  | cleanup
  | done
  deriving DecidableEq

structure State where
  event : BitVec 64 := 0#64
  /-- `eh_waitq` is locked. -/
  locked : Bool := false
  shouldStop : Bool := false
  ehShouldStop : Bool := false
  eh : EhPc := .test
  rx : RxPc := .test
  tx : TxPc := .test
  main : MainPc := .joinEh
  /-- Some event has been added. -/
  added : Bool := false
  deriving DecidableEq

inductive Action
  /-- The event thread goes on. -/
  | eh
  /-- The receiving thread goes on; when it is in `stub_rx_pdu`, that returns. -/
  | rx
  /-- `usbip_event_add` in `stub_rx_pdu` sets its bits. -/
  | rxAdd (e : SdevEvent)
  /-- The sending thread goes on; what it is in returns, without an error. -/
  | tx
  /-- `usbip_event_add` in the sending thread sets its bits. -/
  | txAdd (e : SdevEvent)
  /-- `stub_try_transfer` goes on. -/
  | main
  deriving DecidableEq

/-- Where `event_handler` goes after the bit of an operation. -/
def EhPc.next (event : BitVec 64) : EhOp → EhPc
  | .shutdown => .at event .reset
  | .reset => .at event .unusable
  | .unusable => .bye event

/-- The first section of `usbip_event_add`.
Source: `stub_event.c`, `usbip_event_add`. -/
def State.add (e : SdevEvent) (s : State) : State :=
  { s with event := s.event ||| e.code, added := true }

/-- Source: `stub_event.c`, `event_handler_loop`, `event_handler`, `event_get`, `usbip_stop_eh`,
and `stub_dev.c`, `stub_shutdown`. -/
def eventHandlerLoop (s : State) : Option State :=
  match s.eh with
  | .test => some { s with eh := if s.ehShouldStop then .returned else .lock }
  | .lock => if s.locked then none else some { s with locked := true, eh := .get }
  | .get => some { s with event := 0#64, eh := .at s.event .shutdown }
  | .at event op =>
      if Asks event op then
        match op with
        | .shutdown => some { s with eh := .stopThreads event }
        | .reset | .unusable => some { s with eh := .running event op }
      else some { s with eh := EhPc.next event op }
  | .stopThreads event => some { s with shouldStop := true, eh := .stopEh event }
  | .stopEh event => some { s with ehShouldStop := true, eh := .wakeUp event }
  | .wakeUp event => some { s with locked := false, eh := EhPc.next event .shutdown }
  | .running event op => some { s with eh := EhPc.next event op }
  | .bye event => some { s with eh := if Bye event then .returned else .test }
  | .returned => none

/-- Source: `stub_rx.c`, `stub_rx_loop`. -/
def stubRxLoop (s : State) : Option State :=
  match s.rx with
  | .test => some { s with rx := if s.shouldStop then .returned else .happened }
  | .happened => some { s with rx := if s.event ≠ 0#64 then .returned else .pdu }
  | .pdu => some { s with rx := .test }
  | .unlock => some { s with locked := false, rx := .pdu }
  | .returned => none

/-- Source: `stub_tx.c`, `stub_tx_loop`, `poll_events_and_complete`. -/
def stubTxLoop (s : State) : Option State :=
  match s.tx with
  | .test => some { s with tx := if s.shouldStop then .returned else .poll }
  | .poll => some { s with tx := .happened }
  | .unlockPoll => some { s with locked := false, tx := .poll }
  | .happened => some { s with tx := if s.event ≠ 0#64 then .returned else .send }
  | .send => some { s with tx := .test }
  | .unlockSend => some { s with locked := false, tx := .returned }
  | .returned => none

/-- Source: `stub_dev.c`, `stub_try_transfer`, `stub_join`, and `stub_event.c`, `usbip_join_eh`. -/
def stubTryTransfer (s : State) : Option State :=
  match s.main with
  | .joinEh => if s.eh = .returned then some { s with main := .destroy } else none
  | .destroy => some { s with main := .joinTx }
  | .joinTx => if s.tx = .returned then some { s with main := .joinRx } else none
  | .joinRx => if s.rx = .returned then some { s with main := .cleanup } else none
  | .cleanup => some { s with main := .done }
  | .done => none

/-- The state an action leads to. -/
def step (s : State) : Action → Option State
  | .eh => eventHandlerLoop s
  | .rx => stubRxLoop s
  | .rxAdd e => if s.rx = .pdu then some { s.add e with rx := .unlock } else none
  | .tx => stubTxLoop s
  | .txAdd e =>
      match s.tx with
      | .poll => some { s.add e with tx := .unlockPoll }
      | .send => some { s.add e with tx := .unlockSend }
      | _ => none
  | .main => stubTryTransfer s

/-- `stub_start` has started the threads.
Source: `stub_dev.c`, `stub_start`, and `stub_event.c`, `usbip_start_eh`. -/
def machine : Machine State Action where
  init s := s = {}
  step := step

/-! ## The invariant -/

/-- The bits that a pass of `event_handler` works on. -/
def EhPc.event : EhPc → Option (BitVec 64)
  | .at event _ | .stopThreads event | .stopEh event | .wakeUp event | .running event _
  | .bye event => some event
  | .test | .lock | .get | .returned => none

/-- Between the condition of the loop and `ud->eh_should_stop = 1`. -/
def EhPc.early : EhPc → Bool
  | .lock | .get | .at _ .shutdown | .stopThreads _ | .stopEh _ => true
  | .test | .at _ .reset | .at _ .unusable | .wakeUp _ | .running _ _ | .bye _ | .returned => false

/-- A shutdown is under way. -/
def EhPc.Shutting : EhPc → Prop
  | .at event .shutdown => Asks event .shutdown
  | .stopThreads _ | .stopEh _ => True
  | .test | .lock | .get | .at _ .reset | .at _ .unusable | .wakeUp _ | .running _ _ | .bye _
  | .returned => False

instance (pc : EhPc) : Decidable pc.Shutting :=
  match pc with
  | .at event .shutdown => inferInstanceAs (Decidable (Asks event .shutdown))
  | .stopThreads _ | .stopEh _ => isTrue trivial
  | .test | .lock | .get | .at _ .reset | .at _ .unusable | .wakeUp _ | .running _ _ | .bye _
  | .returned => isFalse id

/-- A call of `usbip_event_add` has still to unlock the mutex. -/
def State.Unlocking (s : State) : Prop :=
  s.rx = .unlock ∨ s.tx = .unlockPoll ∨ s.tx = .unlockSend

instance (s : State) : Decidable s.Unlocking := inferInstanceAs (Decidable (_ ∨ _))

/-- What holds of the threads between two steps. -/
structure Inv (s : State) : Prop where
  /-- No wake-up is lost. -/
  awake : s.event ≠ 0#64 → s.locked = false ∨ s.Unlocking ∨ s.eh = .get
  early : s.eh.early = true → s.ehShouldStop = false
  /-- The first event that is added leads to a shutdown. -/
  asked : s.added = true →
    Asks s.event .shutdown ∨ s.eh.Shutting ∨ s.ehShouldStop = true
  noBye : ¬ Bye s.event ∧ ∀ event ∈ s.eh.event, ¬ Bye event
  threads : ∀ event, s.eh = .stopEh event → s.shouldStop = true
  stop : s.ehShouldStop = true → s.shouldStop = true
  returned : s.eh = .returned → s.ehShouldStop = true
  joinedEh : s.main ≠ .joinEh → s.eh = .returned
  joinedTx : s.main ≠ .joinEh → s.main ≠ .destroy → s.main ≠ .joinTx → s.tx = .returned
  joinedRx : s.main = .cleanup ∨ s.main = .done → s.rx = .returned

variable {s t : State} {a : Action}

/-- Nothing has happened at the start. -/
lemma inv_start : Inv {} where
  awake h := absurd rfl h
  early _ := rfl
  asked h := absurd h (by decide)
  noBye := ⟨by decide, by simp [EhPc.event]⟩
  threads event h := by cases h
  stop h := absurd h (by decide)
  returned h := by cases h
  joinedEh h := absurd rfl h
  joinedTx h := absurd rfl h
  joinedRx h := by simp at h

/-- None of the three events has the BYE bit. -/
lemma not_bye_code (e : SdevEvent) : ¬ Bye e.code := by
  cases e <;> decide

/-- Each of the three events asks for a shutdown. -/
lemma asks_code (e : SdevEvent) : Asks e.code .shutdown := by
  cases e <;> decide

/-! ### The receiving thread -/

/-- The receive thread keeps the invariant. -/
theorem Inv.stubRxLoop (h : Inv s) (hst : stubRxLoop s = some t) : Inv t := by
  have hawake := h.awake
  have hjoined := h.joinedRx
  unfold Events.stubRxLoop at hst
  cases hrx : s.rx with
  | test | happened | pdu =>
      rw [hrx] at hst
      obtain rfl := Option.some.inj hst
      refine { h with awake := fun he => ?_, joinedRx := fun hm => ?_ }
      · have := hawake he
        grind [State.Unlocking]
      · have := hjoined hm
        simp_all
  | unlock =>
      rw [hrx] at hst
      obtain rfl := Option.some.inj hst
      refine { h with awake := fun _ => Or.inl rfl, joinedRx := fun hm => ?_ }
      have := hjoined hm
      simp_all
  | returned =>
      rw [hrx] at hst
      cases hst

/-! ### The sending thread -/

/-- The transmit thread keeps the invariant. -/
theorem Inv.stubTxLoop (h : Inv s) (hst : stubTxLoop s = some t) : Inv t := by
  have hawake := h.awake
  have hjoined := h.joinedTx
  unfold Events.stubTxLoop at hst
  cases htx : s.tx with
  | test | poll | happened | send =>
      rw [htx] at hst
      obtain rfl := Option.some.inj hst
      refine { h with awake := fun he => ?_, joinedTx := fun h₁ h₂ h₃ => ?_ }
      · have := hawake he
        grind [State.Unlocking]
      · have := hjoined h₁ h₂ h₃
        simp_all
  | unlockPoll | unlockSend =>
      rw [htx] at hst
      obtain rfl := Option.some.inj hst
      refine { h with awake := fun _ => Or.inl rfl, joinedTx := fun h₁ h₂ h₃ => ?_ }
      have := hjoined h₁ h₂ h₃
      simp_all
  | returned =>
      rw [htx] at hst
      cases hst

/-! ### New events -/

/-- The bits of an event are set by a thread that has not returned. -/
theorem Inv.add (h : Inv s) (e : SdevEvent) {rx : RxPc} {tx : TxPc}
    (hunlocking : rx = .unlock ∨ tx = .unlockPoll ∨ tx = .unlockSend)
    (hrx : s.rx = .returned → rx = .returned) (htx : s.tx = .returned → tx = .returned) :
    Inv { s.add e with rx := rx, tx := tx } where
  awake _ := Or.inr (Or.inl hunlocking)
  early := h.early
  asked _ := Or.inl ((asks_or _ _ _).mpr (Or.inr (asks_code e)))
  noBye := ⟨fun hbye => ((bye_or _ _).mp hbye).elim h.noBye.1 (not_bye_code e), h.noBye.2⟩
  threads := h.threads
  stop := h.stop
  returned := h.returned
  joinedEh := h.joinedEh
  joinedTx h₁ h₂ h₃ := htx (h.joinedTx h₁ h₂ h₃)
  joinedRx hm := hrx (h.joinedRx hm)

/-! ### The event thread -/

/-- The event thread is past `event_get` and goes on in the same pass. -/
lemma Inv.goOn (h : Inv s) (event : BitVec 64) (pc : EhPc) (hin : s.eh.event = some event)
    (hevent : ∀ event' ∈ pc.event, event' = event)
    (hearly : pc.early = true → s.eh.early = true) (hshutting : s.eh.Shutting → pc.Shutting)
    (hthreads : ∀ event', pc ≠ .stopEh event') (hreturned : pc ≠ .returned)
    (hnot : s.eh ≠ .get ∧ s.eh ≠ .returned) : Inv { s with eh := pc } where
  awake he := (h.awake he).imp_right fun hu => hu.imp_right fun hget => absurd hget hnot.1
  early he := h.early (hearly he)
  asked ha := (h.asked ha).imp_right fun hs => hs.imp_left hshutting
  noBye := ⟨h.noBye.1, fun event' hevent' => hevent event' hevent' ▸ h.noBye.2 event hin⟩
  threads event' heq := absurd heq (hthreads event')
  stop := h.stop
  returned heq := absurd heq hreturned
  joinedEh hm := absurd (h.joinedEh hm) hnot.2
  joinedTx := h.joinedTx
  joinedRx := h.joinedRx

/-- Giving the lock back keeps the invariant. -/
lemma Inv.unlock (h : Inv s) : Inv { s with locked := false } :=
  { h with awake := fun _ => Or.inl rfl }

/-- The `if` of an operation. -/
lemma Inv.testOp (h : Inv s) {event : BitVec 64} {op : EhOp} (heh : s.eh = .at event op) :
    (Asks event op → ∀ pc, pc = .stopThreads event ∧ op = .shutdown ∨
      pc = .running event op ∧ op ≠ .shutdown → Inv { s with eh := pc }) ∧
    (¬ Asks event op → Inv { s with eh := EhPc.next event op }) := by
  have hin : s.eh.event = some event := by rw [heh]; rfl
  have hnot : s.eh ≠ .get ∧ s.eh ≠ .returned := by rw [heh]; simp
  refine ⟨?_, fun hasks => ?_⟩
  · rintro hasks pc (⟨rfl, rfl⟩ | ⟨rfl, hop⟩)
    · exact h.goOn event _ hin (by simp [EhPc.event]) (fun _ => by rw [heh]; rfl) (fun _ => trivial)
        (by simp) (by simp) hnot
    · refine h.goOn event _ hin (by simp [EhPc.event]) (by simp [EhPc.early]) ?_ (by simp) (by simp) hnot
      rw [heh]
      cases op with
      | shutdown => exact absurd rfl hop
      | reset | unusable => exact id
  · cases op with
    | shutdown =>
        refine h.goOn event _ hin (by simp [EhPc.event, EhPc.next]) (by simp [EhPc.early, EhPc.next]) ?_
          (by simp [EhPc.next]) (by simp [EhPc.next]) hnot
        rw [heh]
        exact fun hshutting => absurd hshutting hasks
    | reset | unusable =>
        refine h.goOn event _ hin (by simp [EhPc.event, EhPc.next]) (by simp [EhPc.early, EhPc.next]) ?_
          (by simp [EhPc.next]) (by simp [EhPc.next]) hnot
        rw [heh]
        exact id

/-- The event thread keeps the invariant, one case for each of its places. -/
theorem Inv.eventHandlerLoop (h : Inv s) (hst : eventHandlerLoop s = some t) : Inv t := by
  unfold Events.eventHandlerLoop at hst
  have hawake (hnot : s.eh ≠ .get) : s.event ≠ 0#64 → s.locked = false ∨ s.Unlocking := fun he =>
    (h.awake he).imp_right fun hu => hu.resolve_right hnot
  have hmain (hnot : s.eh ≠ .returned) : s.main = .joinEh := by
    by_contra hm
    exact hnot (h.joinedEh hm)
  cases heh : s.eh with
  | test =>
      rw [heh] at hst
      obtain rfl := Option.some.inj hst
      have hm := hmain (by rw [heh]; decide)
      by_cases hstop : s.ehShouldStop = true
      · rw [if_pos hstop]
        exact
          { h with
            awake := fun he => (hawake (by rw [heh]; decide) he).imp_right Or.inl
            early := fun he => by cases he
            asked := fun _ => Or.inr (Or.inr hstop)
            noBye := ⟨h.noBye.1, by simp [EhPc.event]⟩
            threads := fun event heq => by cases heq
            returned := fun _ => hstop
            joinedEh := fun hne => absurd hm hne }
      · rw [if_neg hstop]
        exact
          { h with
            awake := fun he => (hawake (by rw [heh]; decide) he).imp_right Or.inl
            early := fun _ => Bool.eq_false_iff.mpr hstop
            asked := fun ha => (h.asked ha).imp_right fun hs => hs.imp_left fun hshut => by
              simp [heh, EhPc.Shutting] at hshut
            noBye := ⟨h.noBye.1, by simp [EhPc.event]⟩
            threads := fun event heq => by cases heq
            returned := fun heq => by cases heq
            joinedEh := fun hne => absurd hm hne }
  | lock =>
      rw [heh] at hst
      dsimp only at hst
      split at hst
      · cases hst
      · obtain rfl := Option.some.inj hst
        exact
          { h with
            awake := fun _ => Or.inr (Or.inr rfl)
            early := fun _ => h.early (by rw [heh]; rfl)
            asked := fun ha => (h.asked ha).imp_right fun hs => hs.imp_left fun hshut => by
              simp [heh, EhPc.Shutting] at hshut
            noBye := ⟨h.noBye.1, by simp [EhPc.event]⟩
            threads := fun event heq => by cases heq
            returned := fun heq => by cases heq
            joinedEh := fun hne => absurd (hmain (by rw [heh]; decide)) hne }
  | get =>
      rw [heh] at hst
      obtain rfl := Option.some.inj hst
      have hstop := h.early (by rw [heh]; rfl)
      exact
        { h with
          awake := fun he => absurd rfl he
          early := fun _ => hstop
          asked := fun ha => by
            rcases h.asked ha with hasks | hshut | hs
            · exact Or.inr (Or.inl hasks)
            · simp [heh, EhPc.Shutting] at hshut
            · exact Or.inr (Or.inr hs)
          noBye := ⟨show ¬ Bye 0#64 by decide, fun event heq => by
            obtain rfl := Option.some.inj heq
            exact h.noBye.1⟩
          threads := fun event heq => by cases heq
          returned := fun heq => by cases heq
          joinedEh := fun hne => absurd (hmain (by rw [heh]; decide)) hne }
  | «at» event op =>
      rw [heh] at hst
      dsimp only at hst
      obtain ⟨hyes, hno⟩ := h.testOp heh
      split at hst
      · rename_i hasks
        cases op with
        | shutdown =>
            obtain rfl := Option.some.inj hst
            exact hyes hasks _ (Or.inl ⟨rfl, rfl⟩)
        | reset | unusable =>
            obtain rfl := Option.some.inj hst
            exact hyes hasks _ (Or.inr ⟨rfl, by decide⟩)
      · rename_i hasks
        obtain rfl := Option.some.inj hst
        exact hno hasks
  | stopThreads event =>
      rw [heh] at hst
      obtain rfl := Option.some.inj hst
      exact
        { h with
          awake := fun he => (hawake (by rw [heh]; simp) he).imp_right Or.inl
          early := fun _ => h.early (by rw [heh]; rfl)
          asked := fun _ => Or.inr (Or.inl trivial)
          noBye := ⟨h.noBye.1, fun event' heq => h.noBye.2 event' (by rw [heh]; exact heq)⟩
          threads := fun _ _ => rfl
          stop := fun _ => rfl
          returned := fun heq => by cases heq
          joinedEh := fun hne => absurd (hmain (by rw [heh]; simp)) hne }
  | stopEh event =>
      rw [heh] at hst
      obtain rfl := Option.some.inj hst
      exact
        { h with
          awake := fun he => (hawake (by rw [heh]; simp) he).imp_right Or.inl
          early := fun he => by cases he
          asked := fun _ => Or.inr (Or.inr rfl)
          noBye := ⟨h.noBye.1, fun event' heq => h.noBye.2 event' (by rw [heh]; exact heq)⟩
          threads := fun _ _ => h.threads event heh
          stop := fun _ => h.threads event heh
          returned := fun heq => by cases heq
          joinedEh := fun hne => absurd (hmain (by rw [heh]; simp)) hne }
  | wakeUp event =>
      rw [heh] at hst
      obtain rfl := Option.some.inj hst
      refine (h.goOn event (.at event .reset) (by rw [heh]; rfl)
        (by simp [EhPc.event]) (by simp [EhPc.early]) ?_ (by simp) (by simp)
        (by rw [heh]; simp)).unlock
      rw [heh]
      exact id
  | running event op =>
      rw [heh] at hst
      obtain rfl := Option.some.inj hst
      refine h.goOn event _ (by rw [heh]; rfl) ?_ ?_ ?_ ?_ ?_ (by rw [heh]; simp)
      · cases op <;> simp [EhPc.event, EhPc.next]
      · cases op <;> simp [EhPc.early, EhPc.next]
      · rw [heh]
        exact fun hshut => absurd hshut id
      · cases op <;> simp [EhPc.next]
      · cases op <;> simp [EhPc.next]
  | bye event =>
      rw [heh] at hst
      obtain rfl := Option.some.inj hst
      have hbye : ¬ Bye event := h.noBye.2 event (by rw [heh]; rfl)
      rw [if_neg hbye]
      refine h.goOn event _ (by rw [heh]; rfl) (by simp [EhPc.event])
        (by simp [EhPc.early]) ?_ (by simp) (by simp) (by rw [heh]; simp)
      rw [heh]
      exact id
  | returned =>
      rw [heh] at hst
      cases hst

/-! ### The thread that waits -/

/-- The main thread keeps the invariant. -/
theorem Inv.stubTryTransfer (h : Inv s) (hst : stubTryTransfer s = some t) : Inv t := by
  unfold Events.stubTryTransfer at hst
  cases hmain : s.main with
  | joinEh =>
      rw [hmain] at hst
      obtain ⟨heh, hst⟩ := Option.ite_none_right_eq_some.mp hst
      obtain rfl := Option.some.inj hst
      exact { h with
        joinedEh := fun _ => heh
        joinedTx := fun _ hne => absurd rfl hne
        joinedRx := fun hm => by simp at hm }
  | destroy =>
      rw [hmain] at hst
      obtain rfl := Option.some.inj hst
      exact { h with
        joinedEh := fun _ => h.joinedEh (by rw [hmain]; decide)
        joinedTx := fun _ _ hne => absurd rfl hne
        joinedRx := fun hm => by simp at hm }
  | joinTx =>
      rw [hmain] at hst
      obtain ⟨htx, hst⟩ := Option.ite_none_right_eq_some.mp hst
      obtain rfl := Option.some.inj hst
      exact { h with
        joinedEh := fun _ => h.joinedEh (by rw [hmain]; decide)
        joinedTx := fun _ _ _ => htx
        joinedRx := fun hm => by simp at hm }
  | joinRx =>
      rw [hmain] at hst
      obtain ⟨hrx, hst⟩ := Option.ite_none_right_eq_some.mp hst
      obtain rfl := Option.some.inj hst
      have htx := h.joinedTx (by rw [hmain]; decide) (by rw [hmain]; decide) (by rw [hmain]; decide)
      exact { h with
        joinedEh := fun _ => h.joinedEh (by rw [hmain]; decide)
        joinedTx := fun _ _ _ => htx
        joinedRx := fun _ => hrx }
  | cleanup =>
      rw [hmain] at hst
      obtain rfl := Option.some.inj hst
      have htx := h.joinedTx (by rw [hmain]; decide) (by rw [hmain]; decide) (by rw [hmain]; decide)
      exact { h with
        joinedEh := fun _ => h.joinedEh (by rw [hmain]; decide)
        joinedTx := fun _ _ _ => htx
        joinedRx := fun _ => h.joinedRx (Or.inl hmain) }
  | done =>
      rw [hmain] at hst
      cases hst

/-! ## What holds in every run -/

/-- Every step of the four threads keeps the invariant. -/
theorem Inv.step (h : Inv s) (hst : step s a = some t) : Inv t := by
  cases a with
  | eh => exact h.eventHandlerLoop hst
  | rx => exact h.stubRxLoop hst
  | rxAdd e =>
      obtain ⟨hrx, hst⟩ := Option.ite_none_right_eq_some.mp hst
      obtain rfl := Option.some.inj hst
      exact h.add e (Or.inl rfl) (fun hret => by rw [hrx] at hret; cases hret) id
  | tx => exact h.stubTxLoop hst
  | txAdd e =>
      simp only [Events.step] at hst
      cases htx : s.tx with
      | poll =>
          rw [htx] at hst
          obtain rfl := Option.some.inj hst
          exact h.add e (Or.inr (Or.inl rfl)) id fun hret => by rw [htx] at hret; cases hret
      | send =>
          rw [htx] at hst
          obtain rfl := Option.some.inj hst
          exact h.add e (Or.inr (Or.inr rfl)) id fun hret => by rw [htx] at hret; cases hret
      | test | unlockPoll | happened | unlockSend | returned =>
          rw [htx] at hst
          cases hst
  | main => exact h.stubTryTransfer hst

/-- The invariant holds of every reachable session. -/
theorem inv_of_reachable (h : machine.Reachable s) : Inv s :=
  h.invariant (fun _ hs => hs ▸ inv_start) fun _ _ _ hi _ hst => hi.step hst

/-- The event thread sleeps only when there is no event to handle, or a thread that has added one
is about to wake it up. -/
theorem Inv.event_of_asleep (h : Inv s) (heh : s.eh = .lock) (hlocked : s.locked = true)
    (hunlocking : ¬ s.Unlocking) : s.event = 0#64 := by
  by_contra hne
  rcases h.awake hne with hfree | hu | hget
  · rw [hfree] at hlocked
    cases hlocked
  · exact hunlocking hu
  · rw [heh] at hget
    cases hget

/-- An event thread that cannot go on has nothing to answer. -/
lemma Inv.noEvent_of_asleep (hi : Inv s) (heh : s.eh ≠ .returned)
    (hasleep : Events.step s .eh = none) (hunlocking : ¬ s.Unlocking) :
    s.event = 0#64 ∧ s.added = false := by
  have hlock : s.eh = .lock ∧ s.locked = true := by
    simp only [Events.step, Events.eventHandlerLoop] at hasleep
    cases hpc : s.eh with
    | lock =>
        rw [hpc] at hasleep
        dsimp only at hasleep
        by_contra hnot
        rw [if_neg fun hl => hnot ⟨rfl, hl⟩] at hasleep
        cases hasleep
    | returned => exact absurd hpc heh
    | «at» event op =>
        rw [hpc] at hasleep
        cases op <;> (dsimp only at hasleep; split at hasleep <;> cases hasleep)
    | test | get | stopThreads event | stopEh event | wakeUp event | running event op
    | bye event =>
        rw [hpc] at hasleep
        cases hasleep
  have hevent := hi.event_of_asleep hlock.1 hlock.2 hunlocking
  refine ⟨hevent, ?_⟩
  by_contra hadded
  have hstop := hi.early (by rw [hlock.1]; rfl)
  rcases hi.asked (Bool.not_eq_false _ ▸ hadded) with hasks | hshut | hs
  · rw [hevent] at hasks
    exact not_asks_zero _ hasks
  · rw [hlock.1] at hshut
    exact hshut
  · rw [hstop] at hs
    cases hs

/-- The event thread waits with no event added, or with a thread about to wake it up. -/
theorem event_thread_awake (h : machine.Reachable s) (heh : s.eh ≠ .returned)
    (hasleep : step s .eh = none) (hunlocking : ¬ s.Unlocking) :
    s.event = 0#64 ∧ s.added = false :=
  (inv_of_reachable h).noEvent_of_asleep heh hasleep hunlocking

/-- The event thread has gone through its loop once, with nothing to handle. -/
def asleep : State := { locked := true, eh := .lock }

/-- A session whose event thread sleeps. -/
theorem event_thread_awake_asleep : asleep.event = 0#64 ∧ asleep.added = false :=
  event_thread_awake ⟨{}, rfl, Machine.run_of_perform (List.replicate 8 .eh) rfl⟩ (by decide) rfl
    (by decide)

/-! ## The end of a session -/

/-- How many steps the event thread has before it returns, when it is told to stop. -/
def EhPc.left : EhPc → Nat
  | .returned => 0
  | .test => 1
  | .bye _ => 2
  | .running _ .unusable => 3
  | .at _ .unusable => 4
  | .running _ .reset => 5
  | .at _ .reset => 6
  | .running _ .shutdown | .wakeUp _ => 7
  | .stopEh _ => 8
  | .stopThreads _ => 9
  | .at _ .shutdown => 10
  | .get => 11
  | .lock => 12

/-- A shutdown is done, under way or the next thing the event thread comes to. -/
def EhPc.Doomed (stop : Bool) (pc : EhPc) : Prop :=
  stop = true ∨ pc.Shutting ∨ pc = .lock ∨ pc = .get

instance (stop : Bool) (pc : EhPc) : Decidable (pc.Doomed stop) :=
  inferInstanceAs (Decidable (_ ∨ _))

/-- How many steps it has once an event was added: the pass it is in may have begun before that. -/
def EhPc.stepsLeft (stop : Bool) (pc : EhPc) : Nat :=
  if pc.Doomed stop then pc.left else pc.left + 12

/-- A thread that is going to return counts its own steps. -/
lemma EhPc.stepsLeft_of_doomed {stop : Bool} {pc : EhPc} (h : pc.Doomed stop) :
    pc.stepsLeft stop = pc.left := if_pos h

/-- The steps of one more round from the lock. -/
lemma EhPc.stepsLeft_lock (stop : Bool) : EhPc.lock.stepsLeft stop = 12 :=
  stepsLeft_of_doomed (Or.inr (Or.inr (Or.inl rfl)))

/-- The steps of one more round from the fetch. -/
lemma EhPc.stepsLeft_get (stop : Bool) : EhPc.get.stepsLeft stop = 11 :=
  stepsLeft_of_doomed (Or.inr (Or.inr (Or.inr rfl)))

/-- The event thread never has more than 22 steps to go. -/
lemma EhPc.stepsLeft_le (stop : Bool) (pc : EhPc) : pc.stepsLeft stop ≤ 22 := by
  cases pc with
  | lock =>
      rw [EhPc.stepsLeft_lock]
      decide
  | get =>
      rw [EhPc.stepsLeft_get]
      decide
  | «at» event op | running event op =>
      unfold EhPc.stepsLeft
      cases op <;> simp only [EhPc.left] <;> split <;> omega
  | test | stopThreads event | stopEh event | wakeUp event | bye event | returned =>
      unfold EhPc.stepsLeft
      simp only [EhPc.left]
      split <;> omega

/-- Past the shutdown, or without one, only the flag counts. -/
lemma EhPc.stepsLeft_eq (stop : Bool) {pc : EhPc} (hshut : ¬ pc.Shutting) (hlock : pc ≠ .lock)
    (hget : pc ≠ .get) : pc.stepsLeft stop = if stop then pc.left else pc.left + 12 := by
  cases stop with
  | true => exact if_pos (Or.inl rfl)
  | false =>
      refine if_neg ?_
      rintro (h | h | h | h)
      · cases h
      · exact hshut h
      · exact hlock h
      · exact hget h

/-- The receive thread changes its own place and the lock, outside `usbip_event_add`. -/
lemma stubRxLoop_frame (hst : stubRxLoop s = some t) :
    ∃ rx locked, t = { s with rx := rx, locked := locked } := by
  unfold stubRxLoop at hst
  split at hst
  · exact ⟨_, s.locked, (Option.some.inj hst).symm⟩
  · exact ⟨_, s.locked, (Option.some.inj hst).symm⟩
  · exact ⟨_, s.locked, (Option.some.inj hst).symm⟩
  · exact ⟨_, false, (Option.some.inj hst).symm⟩
  · cases hst

/-- The transmit thread changes its own place and the lock, outside `usbip_event_add`. -/
lemma stubTxLoop_frame (hst : stubTxLoop s = some t) :
    ∃ tx locked, t = { s with tx := tx, locked := locked } := by
  unfold stubTxLoop at hst
  split at hst
  · exact ⟨_, s.locked, (Option.some.inj hst).symm⟩
  · exact ⟨_, s.locked, (Option.some.inj hst).symm⟩
  · exact ⟨_, false, (Option.some.inj hst).symm⟩
  · exact ⟨_, s.locked, (Option.some.inj hst).symm⟩
  · exact ⟨_, s.locked, (Option.some.inj hst).symm⟩
  · exact ⟨_, false, (Option.some.inj hst).symm⟩
  · cases hst

/-- The main thread changes its own place alone. -/
lemma stubTryTransfer_frame (hst : stubTryTransfer s = some t) :
    ∃ main, t = { s with main := main } := by
  unfold stubTryTransfer at hst
  split at hst
  · exact ⟨_, (Option.some.inj (Option.ite_none_right_eq_some.mp hst).2).symm⟩
  · exact ⟨_, (Option.some.inj hst).symm⟩
  · exact ⟨_, (Option.some.inj (Option.ite_none_right_eq_some.mp hst).2).symm⟩
  · exact ⟨_, (Option.some.inj (Option.ite_none_right_eq_some.mp hst).2).symm⟩
  · exact ⟨_, (Option.some.inj hst).symm⟩
  · cases hst

/-- What the other threads leave alone. -/
lemma frame_of_step (ha : a ≠ .eh) (hst : step s a = some t) :
    t.eh = s.eh ∧ t.ehShouldStop = s.ehShouldStop ∧ (s.added = true → t.added = true) := by
  cases a with
  | eh => exact absurd rfl ha
  | rx =>
      obtain ⟨rx, locked, rfl⟩ := stubRxLoop_frame hst
      exact ⟨rfl, rfl, id⟩
  | rxAdd e =>
      obtain rfl := Option.some.inj (Option.ite_none_right_eq_some.mp hst).2
      exact ⟨rfl, rfl, fun _ => rfl⟩
  | tx =>
      obtain ⟨tx, locked, rfl⟩ := stubTxLoop_frame hst
      exact ⟨rfl, rfl, id⟩
  | txAdd e =>
      simp only [Events.step] at hst
      split at hst
      · obtain rfl := Option.some.inj hst
        exact ⟨rfl, rfl, fun _ => rfl⟩
      · obtain rfl := Option.some.inj hst
        exact ⟨rfl, rfl, fun _ => rfl⟩
      · cases hst
  | main =>
      obtain ⟨main, rfl⟩ := stubTryTransfer_frame hst
      exact ⟨rfl, rfl, id⟩

/-- Every step of the event thread leaves it fewer, once an event was added. -/
lemma stepsLeft_of_eh (hi : Inv s) (hadded : s.added = true) (hst : eventHandlerLoop s = some t) :
    t.added = true ∧ 1 + t.eh.stepsLeft t.ehShouldStop ≤ s.eh.stepsLeft s.ehShouldStop := by
  unfold eventHandlerLoop at hst
  cases heh : s.eh with
  | test =>
      rw [heh] at hst
      obtain rfl := Option.some.inj hst
      refine ⟨hadded, ?_⟩
      dsimp only
      cases s.ehShouldStop with
      | true => decide
      | false => decide
  | lock =>
      rw [heh] at hst
      obtain rfl := Option.some.inj (Option.ite_none_left_eq_some.mp hst).2
      refine ⟨hadded, ?_⟩
      rw [EhPc.stepsLeft_lock, EhPc.stepsLeft_get]
  | get =>
      rw [heh] at hst
      obtain rfl := Option.some.inj hst
      refine ⟨hadded, ?_⟩
      have hdoomed : (EhPc.at s.event .shutdown).Doomed s.ehShouldStop := by
        rcases hi.asked hadded with hasks | hshut | hs
        · exact Or.inr (Or.inl hasks)
        · rw [heh] at hshut
          exact absurd hshut id
        · exact Or.inl hs
      rw [EhPc.stepsLeft_get, EhPc.stepsLeft_of_doomed hdoomed]
      exact Nat.le_refl _
  | «at» event op =>
      rw [heh] at hst
      dsimp only at hst
      by_cases hasks : Asks event op
      · rw [if_pos hasks] at hst
        cases op with
        | shutdown =>
            obtain rfl := Option.some.inj hst
            refine ⟨hadded, ?_⟩
            have hnow : (EhPc.at event .shutdown).Doomed s.ehShouldStop := Or.inr (Or.inl hasks)
            have hnext : (EhPc.stopThreads event).Doomed s.ehShouldStop := Or.inr (Or.inl trivial)
            rw [EhPc.stepsLeft_of_doomed hnow, EhPc.stepsLeft_of_doomed hnext]
            exact Nat.le_refl _
        | reset | unusable =>
            obtain rfl := Option.some.inj hst
            refine ⟨hadded, ?_⟩
            dsimp only
            rw [EhPc.stepsLeft_eq _ id (by simp) (by simp), EhPc.stepsLeft_eq _ id (by simp) (by simp)]
            cases s.ehShouldStop <;> exact Nat.le_refl _
      · rw [if_neg hasks] at hst
        obtain rfl := Option.some.inj hst
        refine ⟨hadded, ?_⟩
        cases op with
        | shutdown | reset | unusable =>
            dsimp only [EhPc.next]
            rw [EhPc.stepsLeft_eq _ id (by simp) (by simp),
              EhPc.stepsLeft_eq _ (by first | exact id | exact hasks) (by simp) (by simp)]
            cases s.ehShouldStop <;> simp [EhPc.left]
  | stopThreads event =>
      rw [heh] at hst
      obtain rfl := Option.some.inj hst
      refine ⟨hadded, ?_⟩
      have hnow : (EhPc.stopThreads event).Doomed s.ehShouldStop := Or.inr (Or.inl trivial)
      have hnext : (EhPc.stopEh event).Doomed s.ehShouldStop := Or.inr (Or.inl trivial)
      rw [EhPc.stepsLeft_of_doomed hnow, EhPc.stepsLeft_of_doomed hnext]
      exact Nat.le_refl _
  | stopEh event =>
      rw [heh] at hst
      obtain rfl := Option.some.inj hst
      refine ⟨hadded, ?_⟩
      have hnow : (EhPc.stopEh event).Doomed s.ehShouldStop := Or.inr (Or.inl trivial)
      rw [EhPc.stepsLeft_of_doomed hnow, EhPc.stepsLeft_of_doomed (Or.inl rfl)]
      exact Nat.le_refl _
  | wakeUp event =>
      rw [heh] at hst
      obtain rfl := Option.some.inj hst
      refine ⟨hadded, ?_⟩
      dsimp only [EhPc.next]
      rw [EhPc.stepsLeft_eq _ id (by simp) (by simp), EhPc.stepsLeft_eq _ id (by simp) (by simp)]
      cases s.ehShouldStop <;> exact Nat.le_refl _
  | running event op =>
      rw [heh] at hst
      obtain rfl := Option.some.inj hst
      refine ⟨hadded, ?_⟩
      cases op with
      | shutdown | reset | unusable =>
          dsimp only [EhPc.next]
          rw [EhPc.stepsLeft_eq _ id (by simp) (by simp), EhPc.stepsLeft_eq _ id (by simp) (by simp)]
          cases s.ehShouldStop <;> simp [EhPc.left]
  | bye event =>
      rw [heh] at hst
      obtain rfl := Option.some.inj hst
      have hbye : ¬ Bye event := hi.noBye.2 event (by rw [heh]; rfl)
      refine ⟨hadded, ?_⟩
      dsimp only
      rw [if_neg hbye, EhPc.stepsLeft_eq _ id (by simp) (by simp),
        EhPc.stepsLeft_eq _ id (by simp) (by simp)]
      cases s.ehShouldStop <;> exact Nat.le_refl _
  | returned =>
      rw [heh] at hst
      cases hst

/-- With an event added every step of the event thread takes one off its measure, and no other adds
to it. -/
lemma stepsLeft_of_step (hi : Inv s) (hadded : s.added = true) (hst : step s a = some t) :
    t.added = true ∧ (if decide (a = .eh) = true then 1 else 0) + t.eh.stepsLeft t.ehShouldStop ≤
      s.eh.stepsLeft s.ehShouldStop := by
  by_cases ha : a = .eh
  · subst ha
    exact stepsLeft_of_eh hi hadded hst
  · obtain ⟨heh, hstop, hkeeps⟩ := frame_of_step ha hst
    refine ⟨hkeeps hadded, ?_⟩
    rw [if_neg (by simpa using ha), heh, hstop, Nat.zero_add]

/-- Where the other threads can be stuck. -/
lemma stuck_others (htx : step s .tx = none) (hrx : s.rx = .pdu ∨ step s .rx = none) :
    s.tx = .returned ∧ (s.rx = .pdu ∨ s.rx = .returned) ∧ ¬ s.Unlocking := by
  have htx' : s.tx = .returned := by
    simp only [Events.step, stubTxLoop] at htx
    split at htx
    · cases htx
    · cases htx
    · cases htx
    · cases htx
    · cases htx
    · cases htx
    · assumption
  have hrx' : s.rx = .pdu ∨ s.rx = .returned := by
    refine hrx.imp_right fun hnone => ?_
    simp only [Events.step, stubRxLoop] at hnone
    split at hnone
    · cases hnone
    · cases hnone
    · cases hnone
    · cases hnone
    · assumption
  refine ⟨htx', hrx', ?_⟩
  rintro (hu | hu | hu)
  · rcases hrx' with h | h <;> rw [hu] at h <;> cases h
  · rw [htx'] at hu
    cases hu
  · rw [htx'] at hu
    cases hu

/-- Once an event was added the session ends: the event thread has at most 22 steps left, and when
no thread can go on but the one that receives, the other two have returned, and `stub_join` waits
for nothing but that one. -/
theorem session_ends (h : machine.Reachable s) (hadded : s.added = true) :
    (∀ as t, machine.perform (fun _ _ => True) s as = some t →
      as.countP (fun a => decide (a = .eh)) ≤ 22) ∧
    (step s .eh = none → step s .tx = none → step s .main = none →
      (s.rx = .pdu ∨ step s .rx = none) →
        s.eh = .returned ∧ s.tx = .returned ∧
          (s.main = .joinRx ∧ s.rx = .pdu ∨ s.main = .done ∧ s.rx = .returned)) := by
  have hi := inv_of_reachable h
  refine ⟨fun as t hperform => ?_, fun heh htx hmain hrx => ?_⟩
  · have hcount : as.countP (fun a => decide (a = .eh)) + t.eh.stepsLeft t.ehShouldStop ≤
        s.eh.stepsLeft s.ehShouldStop :=
      Machine.countP_add_le_of_perform (M := machine) (I := fun s => Inv s ∧ s.added = true)
        (fun s a t hI _ hst => by
          obtain ⟨hadded', hle⟩ := stepsLeft_of_step hI.1 hI.2 hst
          exact ⟨⟨hI.1.step hst, hadded'⟩, hle⟩) as ⟨hi, hadded⟩ hperform
    have hbound := s.eh.stepsLeft_le s.ehShouldStop
    omega
  · obtain ⟨htx', hrx', hunlocking⟩ := stuck_others htx hrx
    have heh' : s.eh = .returned := by
      by_contra hne
      have hnot := (hi.noEvent_of_asleep hne heh hunlocking).2
      rw [hadded] at hnot
      cases hnot
    refine ⟨heh', htx', ?_⟩
    simp only [Events.step, stubTryTransfer] at hmain
    cases hpc : s.main with
    | joinRx =>
        rw [hpc] at hmain
        refine Or.inl ⟨rfl, hrx'.resolve_right fun hret => ?_⟩
        rw [hret] at hmain
        cases hmain
    | done => exact Or.inr ⟨rfl, hi.joinedRx (Or.inr hpc)⟩
    | joinEh =>
        rw [hpc, heh'] at hmain
        cases hmain
    | joinTx =>
        rw [hpc, htx'] at hmain
        cases hmain
    | destroy | cleanup =>
        rw [hpc] at hmain
        cases hmain

/-- The receiving thread waits for a request, and the sending thread has just set the bits of an
error. -/
def failing : State where
  event := SdevEvent.errorSubmit.code
  rx := .pdu
  tx := .unlockPoll
  added := true

/-- The event thread handles the error, the sending thread returns, and both are joined. -/
def stopRun : List Action :=
  List.flatten [List.replicate 12 .eh, List.replicate 5 .tx, List.replicate 3 .main]

/-- Only the receiving thread is left. -/
def waiting : State where
  shouldStop := true
  ehShouldStop := true
  eh := .returned
  rx := .pdu
  tx := .returned
  main := .joinRx
  added := true

/-- The failing session is reached. -/
lemma reachable_failing : machine.Reachable failing :=
  ⟨{}, rfl, Machine.run_of_perform [.rx, .rx, .tx, .txAdd .errorSubmit] rfl⟩

/-- The run that stops the session, evaluated. -/
lemma perform_stopRun : machine.perform (fun _ _ => True) failing stopRun = some waiting := rfl

/-- From the moment the error is added to the moment only `stub_rx_loop` is waited for. -/
theorem session_ends_failing :
    (∀ as t, machine.perform (fun _ _ => True) failing as = some t →
      as.countP (fun a => decide (a = .eh)) ≤ 22) ∧
    machine.perform (fun _ _ => True) failing stopRun = some waiting ∧
      waiting.eh = .returned ∧ waiting.tx = .returned ∧
        (waiting.main = .joinRx ∧ waiting.rx = .pdu ∨
          waiting.main = .done ∧ waiting.rx = .returned) := by
  have hwaiting : machine.Reachable waiting :=
    reachable_failing.run (Machine.run_of_perform stopRun perform_stopRun)
  exact ⟨(session_ends reachable_failing rfl).1, perform_stopRun,
    (session_ends hwaiting rfl).2 rfl rfl rfl (Or.inl rfl)⟩

/-- The mutex is not protected so: `usbip_join_eh` destroys it as soon as the event thread has
returned, and the thread whose event has ended the session may still have to unlock it. -/
theorem unlock_after_destroy :
    ∃ t, machine.Reachable t ∧ t.main = .joinTx ∧ t.Unlocking := by
  refine Machine.Reach.of_perform
    (List.flatten [[.tx, .txAdd .errorSubmit], List.replicate 12 .eh, [.main, .main]]) rfl
    ⟨_, rfl, rfl, Or.inr (Or.inl rfl)⟩

end Usbip.LibusbStub.Events
