import Usbip.Common.Basic
import Usbip.Event.Steps

/-!
# One connection after another

The event machine with what it does to the device, and with the call that establishes the next
connection: `store_sockfd` in the stub and the vudc, `store_attach` in vhci.  Such a call finds
the device free in a section under `ud->lock`, starts the receiving and the sending thread, and
(in the stub and the vudc) marks the device used in another section.

Both threads end as soon as `usbip_event_happened`, so a bit that is still set from the connection
before ends the new one.  The machine therefore keeps, beside `ud->event`, the connection on whose
behalf each bit was set (`setBy`, and `byeBy` for `USBIP_EH_BYE`); no step depends on them.

A REMOVED event leaves `USBIP_EH_BYE` set.  After it there is no next connection in the stub and in
vhci, whose devices are gone then; the vudc keeps its device, and the next gadget that is pulled up
is connected on it, after `usbip_start_eh` or, by a call that comes early, before.
-/

namespace Usbip.Event

open Usbip.Core Usbip.Common

/-- The drivers whose devices are connected. -/
inductive Driver
  | stub
  | vudc
  | vhci
  deriving DecidableEq

/-- The status in which the device can be connected. -/
def Driver.free : Driver → UsbipDeviceStatus
  | .stub | .vudc => .sdevAvailable
  | .vhci => .vdevNull

/-- The events the drivers add for a connection: all of `usbip_common.h` but the REMOVED ones. -/
inductive Cause
  /-- `DOWN`, `ERROR_TCP`, `ERROR_SUBMIT`. -/
  | down
  /-- `ERROR_MALLOC`, `ERROR_USB`. -/
  | error
  deriving DecidableEq

/-- `VUDC_EVENT_REMOVED`. -/
def vudcEventRemoved : BitVec 64 := usbipEhShutdown ||| usbipEhReset ||| usbipEhBye

/-- `SDEV_EVENT_REMOVED`, `VUDC_EVENT_REMOVED`, `VDEV_EVENT_REMOVED`. -/
def Driver.removed : Driver → BitVec 64
  | .stub | .vhci => eventRemoved
  | .vudc => vudcEventRemoved

def Cause.event : Cause → BitVec 64
  | .down => eventDown
  | .error => usbipEhShutdown ||| usbipEhUnusable

/-- The position of the call that connects the device. -/
inductive StorePc
  | idle
  /-- It has found the device free and linked the socket. -/
  | linked
  | rxStarted
  | txStarted
  deriving DecidableEq

/-- The position is between the section that finds the device free and the start of both
threads. -/
def StorePc.Starting (pc : StorePc) : Prop := pc = .linked ∨ pc = .rxStarted

instance (pc : StorePc) : Decidable pc.Starting := inferInstanceAs (Decidable (_ ∨ _))

/-- Whether the device can be connected, and where its removal is. -/
inductive Presence (ι : Type*)
  /-- The device is there; in the vudc a gadget is pulled up and `usbip_start_eh` has been called. -/
  | present
  /-- The REMOVED event is being added, by the call `t`, or waited for in `usbip_stop_eh`. -/
  | leaving (t : ι)
  /-- `usbip_stop_eh` has returned, `waited` or because of a signal; in the vudc no gadget is pulled
  up. -/
  | absent (waited : Bool)
  /-- In the vudc: `udc->pullup` is set, `usbip_start_eh` is still to be called. -/
  | rising (waited : Bool)
  deriving DecidableEq

/-- A call that connects the device can be made. -/
def Presence.Open (p : Presence ι) : Prop := p = .present ∨ p = .rising true ∨ p = .rising false

instance (p : Presence ι) [DecidableEq ι] : Decidable p.Open :=
  inferInstanceAs (Decidable (_ ∨ _ ∨ _))

/-- The device is not being removed, nor is a removal still handled whose wait was interrupted. -/
def Presence.Settled : Presence ι → Bool
  | .present => true
  | .leaving _ => false
  | .absent waited | .rising waited => waited

structure Conn (ι δ : Type*) where
  ev : State ι δ := {}
  status : δ → UsbipDeviceStatus
  presence : δ → Presence ι
  /-- `udc->connected`. -/
  connected : δ → Bool := fun _ => false
  store : δ → StorePc := fun _ => .idle
  /-- The number of connections established, which numbers the last one. -/
  conn : δ → Nat := fun _ => 0
  /-- The last connection has been reset. -/
  ended : δ → Bool := fun _ => true
  /-- The connection a call of `usbip_event_add` is made for. -/
  madeFor : ι → Nat := fun _ => 0
  /-- The bits of `ud->event`, each with the connection it was set for. -/
  setBy : δ → List (Nat × EhOp) := fun _ => []
  /-- The connections `USBIP_EH_BYE` was set for. -/
  byeBy : δ → List Nat := fun _ => []

inductive ConnAction (ι δ : Type*)
  /-- Call `t`: `usbip_event_add` for connection `c` of the device. -/
  | add (t : ι) (ud : δ) (c : Nat) (cause : Cause)
  | setEvent (t : ι)
  | addToList (t : ι)
  | runWork
  /-- The event work goes on; if it returns from the reset of the stub, `ok` tells whether
  `usb_reset_device` has succeeded. -/
  | handler (ok : Bool)
  /-- The section of `store_sockfd` (`store_attach`) that finds the device free. -/
  | check (ud : δ)
  | startRx (ud : δ)
  | startTx (ud : δ)
  /-- The end of `store_sockfd` (`store_attach`). -/
  | finishStore (ud : δ)
  /-- The device is removed, or the gadget pulled down: call `t` adds the REMOVED event. -/
  | remove (t : ι) (ud : δ)
  /-- `usbip_stop_eh` returns to the removal; `signal` tells whether a signal interrupts its wait. -/
  | stopEhReturn (ud : δ) (signal : Bool)
  /-- `vgadget_udc_start`: a gadget driver is bound. -/
  | udcStart (ud : δ)
  /-- `vgadget_pullup(1)` sets `udc->pullup`, and drops `udc->lock` in `get_gadget_descs`. -/
  | pullUp (ud : δ)
  /-- `vgadget_pullup(1)` calls `usbip_start_eh`. -/
  | startEh (ud : δ)
  deriving DecidableEq

variable {ι δ : Type*} [DecidableEq ι] [DecidableEq δ]

/-- The operations asked for by an event. -/
def asked (event : BitVec 64) : List EhOp :=
  [EhOp.shutdown, .reset, .unusable].filter fun op => decide (Asks event op)

/-- What is left of an operation when it returns.
Source: `stub_shutdown_connection`, `stub_device_reset`, `stub_device_unusable` and those of the
other two drivers. -/
def opReturn (d : Driver) (ok : Bool) (ud : δ) (op : EhOp) (s : Conn ι δ) : Conn ι δ :=
  match op with
  | .shutdown => { s with connected := Function.update s.connected ud false }
  | .reset =>
      let status := if d = .stub ∧ ok = false then .sdevError else d.free
      { s with
        status := Function.update s.status ud status
        ended := Function.update s.ended ud true }
  | .unusable =>
      let status := if d = .vhci then .vdevError else .sdevError
      { s with status := Function.update s.status ud status }

/-- One step of `event_handler`, with what it does to the device and its bits. -/
def connHandler (d : Driver) (ok : Bool) (s : Conn ι δ) : Option (Conn ι δ) :=
  (eventHandler s.ev).map fun ev =>
    let s' := { s with ev }
    match s.ev.handler with
    | .at ud op .running => opReturn d ok ud op s'
    | .at ud op .clear =>
        { s' with setBy := Function.update s.setBy ud ((s.setBy ud).filter (·.2 ≠ op)) }
    | _ => s'

/-- `set_event` of a call, with the bits it sets. -/
def connSetEvent (t : ι) (s : Conn ι δ) : Option (Conn ι δ) :=
  match s.ev.calls t with
  | some c =>
      (setEvent t s.ev).map fun ev =>
        let bits := (asked c.event).map fun op => (s.madeFor t, op)
        let bye := if Bye c.event then [s.madeFor t] else []
        { s with
          ev
          setBy := Function.update s.setBy c.ud (s.setBy c.ud ++ bits)
          byeBy := Function.update s.byeBy c.ud (s.byeBy c.ud ++ bye) }
  | none => none

/-- The section that finds the device free; in vhci it also changes the status. -/
def storeCheck (d : Driver) (ud : δ) (s : Conn ι δ) : Option (Conn ι δ) :=
  if s.store ud = .idle ∧ (s.presence ud).Open ∧ s.status ud = d.free ∧
      (d = .vudc → s.connected ud = false) then
    some { s with
      status := if d = .vhci then Function.update s.status ud .vdevNotassigned else s.status
      store := Function.update s.store ud .linked
      conn := Function.update s.conn ud (s.conn ud + 1)
      ended := Function.update s.ended ud false }
  else none

/-- The last section of the call; vhci has none. -/
def storeFinish (d : Driver) (ud : δ) (s : Conn ι δ) : Conn ι δ :=
  let s := { s with store := Function.update s.store ud .idle }
  match d with
  | .vhci => s
  | .stub => { s with status := Function.update s.status ud .sdevUsed }
  | .vudc =>
      { s with
        status := Function.update s.status ud .sdevUsed
        connected := Function.update s.connected ud true }

/-- The beginning of a removal.  In the stub and in vhci the attribute is removed first, which waits
for a call that is in it; in the vudc the pullup is cleared between the sections of such a call, or
after `get_gadget_descs` has failed.
Source: `stub_disconnect`, `vhci_stop`, `vgadget_pullup`. -/
def remove (d : Driver) (t : ι) (ud : δ) (s : Conn ι δ) : Option (Conn ι δ) :=
  if (s.presence ud).Open ∧ (d ≠ .vudc → s.store ud = .idle) then
    (beginAdd t ud d.removed s.ev).map fun ev =>
      { s with
        ev
        presence := Function.update s.presence ud (.leaving t)
        madeFor := Function.update s.madeFor t (s.conn ud) }
  else none

/-- The end of `usbip_stop_eh`, called after `usbip_event_add` has returned: it waits for the bits to
be cleared, unless a signal comes. -/
def stopEhReturn (ud : δ) (signal : Bool) (s : Conn ι δ) : Option (Conn ι δ) :=
  match s.presence ud with
  | .leaving t =>
      match s.ev.calls t with
      | some ⟨_, _, .done⟩ | some ⟨_, _, .refused⟩ =>
          let waited := decide (s.ev.event ud &&& ~~~usbipEhBye = 0#64)
          if waited ∨ signal then
            some { s with presence := Function.update s.presence ud (.absent waited) }
          else none
      | _ => none
  | _ => none

/-- The beginning of `vgadget_pullup(1)`.
Source: `vudc_dev.c`, `vgadget_pullup`. -/
def pullUp (d : Driver) (ud : δ) (s : Conn ι δ) : Option (Conn ι δ) :=
  match d, s.presence ud with
  | .vudc, .absent waited =>
      some { s with presence := Function.update s.presence ud (.rising waited) }
  | _, _ => none

/-- Source: `usbip_event.c`, `usbip_start_eh`. -/
def startEh (ud : δ) (s : Conn ι δ) : Conn ι δ :=
  { s with
    ev := { s.ev with event := Function.update s.ev.event ud 0#64 }
    presence := Function.update s.presence ud .present
    setBy := Function.update s.setBy ud []
    byeBy := Function.update s.byeBy ud [] }

/-- The state an action leads to. -/
def connStep (d : Driver) (s : Conn ι δ) : ConnAction ι δ → Option (Conn ι δ)
  | .add t ud c cause =>
      if c ≤ s.conn ud then
        (beginAdd t ud cause.event s.ev).map fun ev =>
          { s with ev, madeFor := Function.update s.madeFor t c }
      else none
  | .setEvent t => connSetEvent t s
  | .addToList t => (addToList t s.ev).map fun ev => { s with ev }
  | .runWork => (Event.step s.ev .runWork).map fun ev => { s with ev }
  | .handler ok => connHandler d ok s
  | .check ud => storeCheck d ud s
  | .startRx ud =>
      if s.store ud = .linked then
        some { s with store := Function.update s.store ud .rxStarted }
      else none
  | .startTx ud =>
      if s.store ud = .rxStarted then
        some { s with store := Function.update s.store ud .txStarted }
      else none
  | .finishStore ud => if s.store ud = .txStarted then some (storeFinish d ud s) else none
  | .remove t ud => remove d t ud s
  | .stopEhReturn ud signal => stopEhReturn ud signal s
  | .udcStart ud =>
      match d, s.presence ud with
      | .vudc, .absent _ => some { s with connected := Function.update s.connected ud false }
      | _, _ => none
  | .pullUp ud => pullUp d ud s
  | .startEh ud =>
      match s.presence ud with
      | .rising _ => some (startEh ud s)
      | _ => none

/-- A device of the stub or of vhci is there as soon as it exists, that of the vudc when a gadget is
pulled up. -/
def Driver.presence : Driver → Presence ι
  | .stub | .vhci => .present
  | .vudc => .absent true

/-- The devices are free and have no connection yet. -/
def connStart (d : Driver) : Conn ι δ where
  status _ := d.free
  presence _ := d.presence

def connMachine (d : Driver) : Machine (Conn ι δ) (ConnAction ι δ) where
  init s := s = connStart d
  step := connStep d

end Usbip.Event
