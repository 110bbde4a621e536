import Usbip.Core.Machine

/-!
# Events

`usbip_event_add` sets bits of `ud->event` under `ud->lock`, and puts the device on `event_list`
under `event_lock` when it is not there yet; the event work takes one device after another off
the list, tests its bits in turn, runs the operation of each bit that is set and clears the bit.
The two locks are never held together, so a device can be given bits, put on the list, taken off
and handled in any order.

The machine has any number of calls of `usbip_event_add` (type `ι`), on any number of devices
(type `δ`), and one event work (the workqueue is single-threaded).  For each device there may be
one teardown, which adds a REMOVED event and then waits in `usbip_stop_eh`.  Allocations
succeed.
-/

namespace Usbip.Event

open Usbip.Core

/-! ## Event bits -/

/-- Source: `usbip_common.h`. -/
def usbipEhShutdown : BitVec 64 := 1#64 <<< 0

/-- Source: `usbip_common.h`. -/
def usbipEhBye : BitVec 64 := 1#64 <<< 1

/-- Source: `usbip_common.h`. -/
def usbipEhReset : BitVec 64 := 1#64 <<< 2

/-- Source: `usbip_common.h`. -/
def usbipEhUnusable : BitVec 64 := 1#64 <<< 3

/-- `SDEV_EVENT_REMOVED`, `VDEV_EVENT_REMOVED`. -/
def eventRemoved : BitVec 64 := usbipEhShutdown ||| usbipEhBye

/-- `SDEV_EVENT_DOWN`, `SDEV_EVENT_ERROR_TCP`, `SDEV_EVENT_ERROR_SUBMIT` and those of the other
two drivers. -/
def eventDown : BitVec 64 := usbipEhShutdown ||| usbipEhReset

/-- The operations of `eh_ops`, in the order in which `event_handler` tests their bits. -/
inductive EhOp
  | shutdown
  | reset
  | unusable
  deriving DecidableEq

instance : Fintype EhOp where
  elems := {.shutdown, .reset, .unusable}
  complete op := by cases op <;> simp

/-- The position of the bit of an operation. -/
def EhOp.shift : EhOp → Nat
  | .shutdown => 0
  | .reset => 2
  | .unusable => 3

/-- The bit of `ud->event` that asks for an operation. -/
def EhOp.bit (op : EhOp) : BitVec 64 := 1#64 <<< op.shift

/-- The bit of an operation is set. -/
def Asks (event : BitVec 64) (op : EhOp) : Prop := event &&& op.bit ≠ 0#64

instance (event : BitVec 64) (op : EhOp) : Decidable (Asks event op) :=
  inferInstanceAs (Decidable (_ ≠ _))

/-- `event & USBIP_EH_BYE`. -/
def Bye (event : BitVec 64) : Prop := event &&& usbipEhBye ≠ 0#64

instance (event : BitVec 64) : Decidable (Bye event) := inferInstanceAs (Decidable (_ ≠ _))

/-- A test of one bit. -/
lemma and_shiftLeft_ne_zero_iff (event : BitVec 64) {i : Nat} (hi : i < 64) :
    event &&& 1#64 <<< i ≠ 0#64 ↔ event.getLsbD i = true := by
  have htwo : (1#64 <<< i) = BitVec.twoPow 64 i := rfl
  rw [htwo, BitVec.and_twoPow]
  cases event.getLsbD i with
  | false => simp
  | true =>
      refine iff_of_true (fun h => ?_) rfl
      have hbit := congrArg (fun x => BitVec.getLsbD x i) h
      simp [hi] at hbit

/-- The bits of the operations are bits of the word. -/
lemma EhOp.shift_lt (op : EhOp) : op.shift < 64 := by
  cases op <;> decide

/-- Each operation has its own bit. -/
lemma EhOp.shift_injective {op op' : EhOp} (h : op.shift = op'.shift) : op = op' := by
  cases op <;> cases op' <;> first | rfl | cases h

/-- An operation is asked for by its bit. -/
lemma asks_iff (event : BitVec 64) (op : EhOp) :
    Asks event op ↔ event.getLsbD op.shift = true :=
  and_shiftLeft_ne_zero_iff event op.shift_lt

/-- BYE is the second bit. -/
lemma bye_iff (event : BitVec 64) : Bye event ↔ event.getLsbD 1 = true :=
  and_shiftLeft_ne_zero_iff event (by decide)

/-- No event asks for nothing. -/
@[simp] lemma not_asks_zero (op : EhOp) : ¬ Asks 0#64 op := by
  simp [Asks]

/-- Two events ask for what either asks for. -/
@[simp] lemma asks_or (event event' : BitVec 64) (op : EhOp) :
    Asks (event ||| event') op ↔ Asks event op ∨ Asks event' op := by
  simp [asks_iff]

/-- Two events end the handler when either does. -/
@[simp] lemma bye_or (event event' : BitVec 64) :
    Bye (event ||| event') ↔ Bye event ∨ Bye event' := by
  simp [bye_iff]

/-- Clearing the bit of an operation clears that bit only. -/
lemma getLsbD_and_not_bit (event : BitVec 64) (op : EhOp) {i : Nat} (hi : i < 64) :
    (event &&& ~~~op.bit).getLsbD i = true ↔ event.getLsbD i = true ∧ i ≠ op.shift := by
  have htwo : op.bit = BitVec.twoPow 64 op.shift := rfl
  rw [htwo, BitVec.getLsbD_and, BitVec.getLsbD_not, BitVec.getLsbD_twoPow]
  by_cases h : op.shift = i
  · simp [h, hi]
  · simp [h, hi, Ne.symm h]

/-- Clearing the bit of an operation clears that bit only. -/
@[simp] lemma asks_and_not_bit (event : BitVec 64) (op op' : EhOp) :
    Asks (event &&& ~~~op.bit) op' ↔ Asks event op' ∧ op' ≠ op := by
  rw [asks_iff, getLsbD_and_not_bit event op op'.shift_lt, ← asks_iff]
  refine and_congr_right fun _ => not_congr ⟨EhOp.shift_injective, fun h => h ▸ rfl⟩

/-- Clearing the bit of an operation keeps BYE. -/
@[simp] lemma bye_and_not_bit (event : BitVec 64) (op : EhOp) :
    Bye (event &&& ~~~op.bit) ↔ Bye event := by
  rw [bye_iff, getLsbD_and_not_bit event op (by decide), ← bye_iff]
  refine and_iff_left ?_
  cases op <;> decide

/-! ## Threads -/

/-- The position of a thread in `usbip_event_add`, past the test of `USBIP_EH_BYE`. -/
inductive AddPc
  /-- At `set_event`. -/
  | set
  /-- At the section on `event_list`. -/
  | list
  /-- It has returned, the bits being set. -/
  | done
  /-- It has returned because `USBIP_EH_BYE` was set. -/
  | refused
  deriving DecidableEq

/-- A call of `usbip_event_add`. -/
structure Call (δ : Type*) where
  ud : δ
  event : BitVec 64
  pc : AddPc

/-- The position of `event_handler` at one of the bits. -/
inductive Stage
  /-- At the `if`. -/
  | test
  /-- The bit was set; the operation has not started. -/
  | call
  /-- In the operation. -/
  | running
  /-- At `unset_event`. -/
  | clear
  deriving DecidableEq

instance : Fintype Stage where
  elems := {.test, .call, .running, .clear}
  complete stage := by cases stage <;> simp

/-- The position of the event work. -/
inductive HandlerPc (δ : Type*)
  /-- Not running. -/
  | idle
  /-- At `get_event`. -/
  | getEvent
  /-- It handles a device and is at the bit of an operation. -/
  | at (ud : δ) (op : EhOp) (stage : Stage)
  /-- It is past the bits of a device. -/
  | wakeUp (ud : δ)
  deriving DecidableEq

/-- The position of the teardown of a device. -/
inductive StopPc (ι : Type*)
  | none
  /-- In `usbip_event_add`, by the call `t`. -/
  | adding (t : ι)
  /-- In `usbip_stop_eh`, about to look at the bits. -/
  | waiting
  /-- Asleep in `usbip_stop_eh`, on `ud->eh_waitq`. -/
  | asleep
  /-- `usbip_stop_eh` has returned. -/
  | returned
  deriving DecidableEq

structure State (ι δ : Type*) where
  /-- `ud->event`; `usbip_start_eh` sets it to 0. -/
  event : δ → BitVec 64 := fun _ => 0#64
  /-- `event_list`. -/
  eventList : List δ := []
  calls : ι → Option (Call δ) := fun _ => none
  /-- `usbip_work` is queued. -/
  pending : Bool := false
  handler : HandlerPc δ := .idle
  stop : δ → StopPc ι := fun _ => .none

inductive Action (ι δ : Type*)
  /-- Call `t`: `usbip_event_add(ud, event)`, up to the test of `USBIP_EH_BYE`. -/
  | add (t : ι) (ud : δ) (event : BitVec 64)
  /-- Call `t` runs `set_event`. -/
  | setEvent (t : ι)
  /-- Call `t` runs its section on `event_list`, and returns. -/
  | addToList (t : ι)
  /-- The workqueue starts the event work. -/
  | runWork
  /-- The event work goes on to its next position. -/
  | handler
  /-- A teardown begins: call `t` adds the REMOVED event. -/
  | teardown (t : ι) (ud : δ)
  /-- The teardown enters `usbip_stop_eh`. -/
  | stopEh (ud : δ)
  /-- `wait_event_interruptible` in `usbip_stop_eh` finds its condition false, and sleeps. -/
  | stopEhSleep (ud : δ)
  /-- `wait_event_interruptible` in `usbip_stop_eh` finds its condition true. -/
  | stopEhReturn (ud : δ)
  deriving DecidableEq

variable {ι δ : Type*} [DecidableEq ι] [DecidableEq δ]

/-- `usbip_event_add` up to the test of `USBIP_EH_BYE`. -/
def beginAdd (t : ι) (ud : δ) (event : BitVec 64) (s : State ι δ) : Option (State ι δ) :=
  match s.calls t with
  | some _ => none
  | none =>
      let pc := if Bye (s.event ud) then .refused else .set
      some { s with calls := Function.update s.calls t (some ⟨ud, event, pc⟩) }

/-- `set_event` of a call. -/
def setEvent (t : ι) (s : State ι δ) : Option (State ι δ) :=
  match s.calls t with
  | some ⟨ud, event, .set⟩ =>
      some { s with
        event := Function.update s.event ud (s.event ud ||| event)
        calls := Function.update s.calls t (some ⟨ud, event, .list⟩) }
  | _ => none

/-- The section of `usbip_event_add` on `event_list`. -/
def addToList (t : ι) (s : State ι δ) : Option (State ι δ) :=
  match s.calls t with
  | some ⟨ud, event, .list⟩ =>
      let s := { s with calls := Function.update s.calls t (some ⟨ud, event, .done⟩) }
      if ud ∈ s.eventList then some s
      else some { s with eventList := s.eventList ++ [ud], pending := true }
  | _ => none

/-- Where `event_handler` goes after the bit of an operation. -/
def EhOp.next (ud : δ) : EhOp → HandlerPc δ
  | .shutdown => .at ud .reset .test
  | .reset => .at ud .unusable .test
  | .unusable => .wakeUp ud

/-- `wake_up(&ud->eh_waitq)`: a wait of the device that is asleep looks at the bits again. -/
def wakeUp (ud : δ) (stop : δ → StopPc ι) : δ → StopPc ι :=
  match stop ud with
  | .asleep => Function.update stop ud .waiting
  | _ => stop

/-- One step of `event_handler`, `get_event`, `unset_event` and `wake_up` being one section each. -/
def eventHandler (s : State ι δ) : Option (State ι δ) :=
  match s.handler with
  | .idle => none
  | .getEvent =>
      match s.eventList with
      | [] => some { s with handler := .idle }
      | ud :: rest => some { s with eventList := rest, handler := .at ud .shutdown .test }
  | .at ud op .test =>
      some { s with handler := if Asks (s.event ud) op then .at ud op .call else op.next ud }
  | .at ud op .call => some { s with handler := .at ud op .running }
  | .at ud op .running => some { s with handler := .at ud op .clear }
  | .at ud op .clear =>
      some { s with
        event := Function.update s.event ud (s.event ud &&& ~~~op.bit)
        handler := op.next ud }
  | .wakeUp ud => some { s with handler := .getEvent, stop := wakeUp ud s.stop }

/-- The state an action leads to. -/
def step (s : State ι δ) : Action ι δ → Option (State ι δ)
  | .add t ud event => beginAdd t ud event s
  | .setEvent t => setEvent t s
  | .addToList t => addToList t s
  | .runWork =>
      match s.handler, s.pending with
      | .idle, true => some { s with handler := .getEvent, pending := false }
      | _, _ => none
  | .handler => eventHandler s
  | .teardown t ud =>
      match s.stop ud with
      | .none =>
          (beginAdd t ud eventRemoved s).map fun s =>
            { s with stop := Function.update s.stop ud (.adding t) }
      | _ => none
  | .stopEh ud =>
      match s.stop ud with
      | .adding t =>
          match s.calls t with
          | some ⟨_, _, .done⟩ | some ⟨_, _, .refused⟩ =>
              some { s with stop := Function.update s.stop ud .waiting }
          | _ => none
      | _ => none
  | .stopEhSleep ud =>
      match s.stop ud with
      | .waiting =>
          if s.event ud &&& ~~~usbipEhBye = 0#64 then none
          else some { s with stop := Function.update s.stop ud .asleep }
      | _ => none
  | .stopEhReturn ud =>
      match s.stop ud with
      | .waiting =>
          if s.event ud &&& ~~~usbipEhBye = 0#64 then
            some { s with stop := Function.update s.stop ud .returned }
          else none
      | _ => none

/-- No event, no call, an empty list. -/
def machine : Machine (State ι δ) (Action ι δ) where
  init s := s = {}
  step := step

end Usbip.Event
