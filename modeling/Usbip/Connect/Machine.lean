import Usbip.Core.Machine
import Usbip.Common.Basic

/-!
# Connecting and disconnecting

`store_sockfd` of the stub and `store_attach` of vhci, called any number of times at once, the
threads they start, and the event work that shuts the connection down and resets the device.  A
call takes the device in a section under `ud->lock`; what it does next (create a thread, record it
in `ud->tcp_rx`, create another one, record it in `ud->tcp_tx`) is done without a lock, and so is
what the shutdown does with the same fields.

Sockets and threads are named by the call they come from.  An event may be added at any time, and
the event work may take the device off its list at any time, so both cover what other threads do.
The event that removes a device is left out: no call comes after it.
-/

namespace Usbip.Connect

open Usbip.Core Usbip.Common

inductive Driver
  | stub
  | vhci
  deriving DecidableEq

/-- The status in which the device can be connected. -/
def Driver.free : Driver → UsbipDeviceStatus
  | .stub => .sdevAvailable
  | .vhci => .vdevNull

def Driver.unusable : Driver → UsbipDeviceStatus
  | .stub => .sdevError
  | .vhci => .vdevError

/-- A pointer to a task. -/
inductive Task (ι : Type*)
  | null
  | thread (t : ι)
  /-- What `kthread_get_run` returns when there is no thread. -/
  | error
  deriving DecidableEq

/-- A thread that a call starts. -/
inductive Thread
  | absent
  | looping
  /-- It has left its loop and is about to end. -/
  | leaving
  | ended
  deriving DecidableEq

/-- The thread is still there. -/
def Thread.Running (k : Thread) : Prop := k = .looping ∨ k = .leaving

instance (k : Thread) : Decidable k.Running := inferInstanceAs (Decidable (_ ∨ _))

/-- The position of a call of `store_sockfd` or `store_attach`. -/
inductive StorePc
  | idle
  /-- Past the section that takes the device. -/
  | linked
  /-- `kthread_get_run` has returned, and `ud->tcp_rx` is not written yet. -/
  | rxCreated
  | rxStarted
  | txCreated
  | txStarted
  | returned (ok : Bool)
  deriving DecidableEq

/-- The call has taken the device and has not returned. -/
inductive StorePc.Midway : StorePc → Prop
  | linked : Midway .linked
  | rxCreated : Midway .rxCreated
  | rxStarted : Midway .rxStarted
  | txCreated : Midway .txCreated
  | txStarted : Midway .txStarted

instance (pc : StorePc) : Decidable pc.Midway :=
  match pc with
  | .idle | .returned _ => isFalse fun h => (by cases h)
  | .linked => isTrue .linked
  | .rxCreated => isTrue .rxCreated
  | .rxStarted => isTrue .rxStarted
  | .txCreated => isTrue .txCreated
  | .txStarted => isTrue .txStarted

/-- The position of the event work in the pass for this device. -/
inductive EhPc (ι : Type*)
  | idle
  | testShutdown
  /-- At the test of `ud->tcp_rx`. -/
  | readRx
  /-- In `kthread_stop`. -/
  | stopRx (t : ι)
  | readTx
  | stopTx (t : ι)
  | closeSocket
  | unsetShutdown
  | testReset
  | reset
  | unsetReset
  | testUnusable
  | unusable
  | unsetUnusable
  /-- A pointer that is no task has been used as one. -/
  | crashed
  deriving DecidableEq

/-- What an event is added for; no call comes after the REMOVED ones. -/
inductive Cause
  /-- `DOWN`, `ERROR_TCP`, `ERROR_SUBMIT`. -/
  | down
  /-- `ERROR_MALLOC`. -/
  | error
  deriving DecidableEq

/-- The bits of `ud->event` that ask for an operation. -/
structure Events where
  shutdown : Bool := false
  reset : Bool := false
  unusable : Bool := false
  deriving DecidableEq

/-- `usbip_event_happened`. -/
def Events.Any (e : Events) : Prop := e.shutdown = true ∨ e.reset = true ∨ e.unusable = true

instance (e : Events) : Decidable e.Any := inferInstanceAs (Decidable (_ ∨ _))

def Events.add (e : Events) : Cause → Events
  | .down => { e with shutdown := true, reset := true }
  | .error => { e with shutdown := true, unusable := true }

/-- How far the connection of a call has got.  No step depends on it. -/
inductive Stage
  | unopened
  | opened
  /-- A shutdown that has begun with the connection open is going on. -/
  | closing
  | shut
  /-- A reset has followed. -/
  | over
  deriving DecidableEq

structure State (ι : Type*) where
  status : UsbipDeviceStatus
  tcpSocket : Option ι := none
  tcpRx : Task ι := .null
  tcpTx : Task ι := .null
  rx : ι → Thread := fun _ => .absent
  tx : ι → Thread := fun _ => .absent
  event : Events := {}
  eh : EhPc ι := .idle
  calls : ι → StorePc := fun _ => .idle
  stage : ι → Stage := fun _ => .unopened

/-- What `usbip_trx_ops->link` does. -/
inductive Outcome
  /-- `sockfd_lookup` finds no socket. -/
  | noSocket
  /-- There is a socket, but no `usbip_ux` for it. -/
  | notLinked
  | linked
  deriving DecidableEq

inductive Action (ι : Type*)
  /-- The section of a call that takes the device. -/
  | check (t : ι) (o : Outcome)
  /-- `kthread_get_run`, which fails if not `ok`. -/
  | createRx (t : ι) (ok : Bool)
  | recordRx (t : ι)
  | createTx (t : ι) (ok : Bool)
  | recordTx (t : ι)
  /-- The rest of a call, and its return. -/
  | finish (t : ι)
  /-- `store_sockfd` with -1, or `store_detach`. -/
  | disconnect
  /-- `usbip_event_add`. -/
  | eventAdd (c : Cause)
  /-- The receiving thread leaves its loop. -/
  | leaveRx (t : ι)
  | endRx (t : ι)
  | leaveTx (t : ι)
  /-- The sending thread adds an event and leaves its loop. -/
  | failTx (t : ι) (c : Cause)
  | endTx (t : ι)
  /-- The event work goes on; `ok` tells whether `usb_reset_device` succeeds. -/
  | handler (ok : Bool)
  deriving DecidableEq

variable {ι : Type*} [DecidableEq ι]

/-- Move a call. -/
def State.goto (s : State ι) (t : ι) (pc : StorePc) : State ι :=
  { s with calls := Function.update s.calls t pc }

def State.setRx (s : State ι) (t : ι) (k : Thread) : State ι :=
  { s with rx := Function.update s.rx t k }

def State.setTx (s : State ι) (t : ι) (k : Thread) : State ι :=
  { s with tx := Function.update s.tx t k }

def usbipEventAdd (c : Cause) (s : State ι) : State ι := { s with event := s.event.add c }

/-- The first section of a call.
Source: `stub_dev.c`, `store_sockfd`; `vhci_sysfs.c`, `store_attach`. -/
def storeCheck (d : Driver) (t : ι) (o : Outcome) (s : State ι) : State ι :=
  if s.status ≠ d.free then s.goto t (.returned false)
  else
    match o with
    | .noSocket => { s.goto t (.returned false) with tcpSocket := none }
    | .notLinked => { s.goto t (.returned false) with tcpSocket := some t }
    | .linked =>
        { s.goto t .linked with
          tcpSocket := some t
          -- The stub writes the status when it has started the threads.
          status := if d = .vhci then .vdevNotassigned else s.status
          stage := Function.update s.stage t .opened }

def created (ok : Bool) : Thread := if ok then .looping else .absent

/-- What `kthread_get_run` has returned for a thread. -/
def taskOf (t : ι) (k : Thread) : Task ι := if k = .absent then .error else .thread t

/-- Source: `stub_dev.c`, `store_sockfd`; `vhci_sysfs.c`, `store_attach`. -/
def storeFinish (d : Driver) (t : ι) (s : State ι) : State ι :=
  { s.goto t (.returned true) with status := if d = .stub then .sdevUsed else s.status }

/-- Source: `stub_dev.c`, `store_sockfd`; `vhci_sysfs.c`, `vhci_port_disconnect`. -/
def disconnect (d : Driver) (s : State ι) : State ι :=
  match d with
  | .stub => if s.status ≠ .sdevUsed then s else usbipEventAdd .down s
  | .vhci => if s.status = .vdevNull then s else usbipEventAdd .down s

/-- Source: `stub_dev.c`, `stub_device_reset`; `vhci_hcd.c`, `vhci_device_reset`. -/
def deviceReset (d : Driver) (ok : Bool) (s : State ι) : State ι :=
  { s with
    status := if d = .stub ∧ ok = false then .sdevError else d.free
    tcpSocket := if d = .vhci then none else s.tcpSocket
    stage := fun t => if s.stage t = .shut then .over else s.stage t }

/-- One step of the event work.
Source: `usbip_event.c`, `event_handler`, with `stub_shutdown_connection` (`stub_dev.c`) and
`vhci_shutdown_connection` (`vhci_hcd.c`) from `readRx` to `closeSocket`. -/
def eventHandler (d : Driver) (ok : Bool) (s : State ι) : Option (State ι) :=
  match s.eh with
  | .idle => some { s with eh := .testShutdown }
  | .testShutdown =>
      if s.event.shutdown then
        some { s with
          eh := .readRx
          stage := fun t => if s.stage t = .opened then .closing else s.stage t }
      else some { s with eh := .testReset }
  | .readRx =>
      match s.tcpRx with
      | .null => some { s with eh := .readTx }
      | .thread t => some { s with eh := .stopRx t }
      | .error => some { s with eh := .crashed }
  | .stopRx t =>
      if s.rx t = .ended then some { s with tcpRx := .null, eh := .readTx } else none
  | .readTx =>
      match s.tcpTx with
      | .null => some { s with eh := .closeSocket }
      | .thread t => some { s with eh := .stopTx t }
      | .error => some { s with eh := .crashed }
  | .stopTx t =>
      if s.tx t = .ended then some { s with tcpTx := .null, eh := .closeSocket } else none
  | .closeSocket =>
      some { s with
        tcpSocket := none
        eh := .unsetShutdown
        stage := fun t => if s.stage t = .closing then .shut else s.stage t }
  | .unsetShutdown =>
      some { s with event := { s.event with shutdown := false }, eh := .testReset }
  | .testReset => some { s with eh := if s.event.reset then .reset else .testUnusable }
  | .reset => some { deviceReset d ok s with eh := .unsetReset }
  | .unsetReset =>
      some { s with event := { s.event with reset := false }, eh := .testUnusable }
  | .testUnusable => some { s with eh := if s.event.unusable then .unusable else .idle }
  | .unusable => some { s with status := d.unusable, eh := .unsetUnusable }
  | .unsetUnusable =>
      some { s with event := { s.event with unusable := false }, eh := .idle }
  | .crashed => none

/-- The state an action leads to. -/
def step (d : Driver) (s : State ι) : Action ι → Option (State ι)
  | .check t o => if s.calls t = .idle then some (storeCheck d t o s) else none
  | .createRx t ok =>
      if s.calls t = .linked then some ((s.goto t .rxCreated).setRx t (created ok)) else none
  | .recordRx t =>
      if s.calls t = .rxCreated then
        some { s.goto t .rxStarted with tcpRx := taskOf t (s.rx t) }
      else none
  | .createTx t ok =>
      if s.calls t = .rxStarted then some ((s.goto t .txCreated).setTx t (created ok)) else none
  | .recordTx t =>
      if s.calls t = .txCreated then
        some { s.goto t .txStarted with tcpTx := taskOf t (s.tx t) }
      else none
  | .finish t => if s.calls t = .txStarted then some (storeFinish d t s) else none
  | .disconnect => some (disconnect d s)
  | .eventAdd c => some (usbipEventAdd c s)
  | .leaveRx t =>
      if s.rx t = .looping ∧ (s.event.Any ∨ s.eh = .stopRx t) then some (s.setRx t .leaving)
      else none
  | .endRx t => if s.rx t = .leaving then some (s.setRx t .ended) else none
  | .leaveTx t =>
      -- `vhci_tx_loop` does not look at the events.
      if s.tx t = .looping ∧ (d = .stub ∧ s.event.Any ∨ s.eh = .stopTx t) then
        some (s.setTx t .leaving)
      else none
  | .failTx t c =>
      if s.tx t = .looping then some (usbipEventAdd c (s.setTx t .leaving)) else none
  | .endTx t => if s.tx t = .leaving then some (s.setTx t .ended) else none
  | .handler ok => eventHandler d ok s

/-! ## What the operations leave alone -/

/-- Where the calls are after one of them has moved. -/
lemma goto_calls (s : State ι) (t u : ι) (pc : StorePc) :
    (s.goto t pc).calls u = if u = t then pc else s.calls u := Function.update_apply ..

/-- The receiving threads after one of them has changed. -/
lemma setRx_rx (s : State ι) (t u : ι) (k : Thread) :
    (s.setRx t k).rx u = if u = t then k else s.rx u := Function.update_apply ..

/-- The sending threads after one of them has changed. -/
lemma setTx_tx (s : State ι) (t u : ι) (k : Thread) :
    (s.setTx t k).tx u = if u = t then k else s.tx u := Function.update_apply ..

/-- The threads and the pointers to them. -/
def State.threads (s : State ι) : (ι → Thread) × (ι → Thread) × Task ι × Task ι :=
  (s.rx, s.tx, s.tcpRx, s.tcpTx)

/-- The first section of a store starts no thread. -/
@[simp] lemma storeCheck_threads (d : Driver) (t : ι) (o : Outcome) (s : State ι) :
    (storeCheck d t o s).threads = s.threads := by
  unfold storeCheck
  split
  · rfl
  · cases o <;> rfl

/-- The first section ends with the link made or the call failed. -/
lemma storeCheck_calls (d : Driver) (t u : ι) (o : Outcome) (s : State ι) :
    (storeCheck d t o s).calls u = s.calls u ∨
      u = t ∧ ((storeCheck d t o s).calls u = .linked ∨
        (storeCheck d t o s).calls u = .returned false) := by
  have hgoto : ∀ pc, (s.goto t pc).calls u = s.calls u ∨ u = t ∧ (s.goto t pc).calls u = pc := by
    intro pc
    rw [goto_calls]
    split
    · exact .inr ⟨‹_›, rfl⟩
    · exact .inl rfl
  unfold storeCheck
  split
  · exact (hgoto _).imp id fun h => ⟨h.1, .inr h.2⟩
  · cases o with
    | linked => exact (hgoto .linked).imp id fun h => ⟨h.1, .inl h.2⟩
    | noSocket | notLinked => exact (hgoto (.returned false)).imp id fun h => ⟨h.1, .inr h.2⟩

omit [DecidableEq ι] in
/-- What the event work leaves alone. -/
lemma eventHandler_frame {d : Driver} {ok : Bool} {s t : State ι}
    (h : eventHandler d ok s = some t) :
    t.calls = s.calls ∧ t.rx = s.rx ∧ t.tx = s.tx ∧ (t.tcpRx = s.tcpRx ∨ t.tcpRx = .null) ∧
      (t.tcpTx = s.tcpTx ∨ t.tcpTx = .null) := by
  unfold eventHandler at h
  split at h
  all_goals first | cases h | skip
  all_goals first
    | exact ⟨rfl, rfl, rfl, .inl rfl, .inl rfl⟩
    | split at h <;> cases h <;> simp

omit [DecidableEq ι] in
/-- A disconnect does nothing, or adds the event. -/
lemma disconnect_eq (d : Driver) (s : State ι) :
    disconnect d s = s ∨ disconnect d s = usbipEventAdd .down s := by
  cases d <;> unfold disconnect <;> dsimp only <;> split <;> simp

/-- The device is free, and no call has been made. -/
def machine (d : Driver) : Machine (State ι) (Action ι) where
  init s := s = { status := d.free }
  step := step d

end Usbip.Connect
