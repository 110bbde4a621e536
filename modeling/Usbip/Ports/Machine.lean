import Usbip.Event.Machine
import Usbip.Common.Basic

/-!
# Controllers and their ports

The table `vhci_pdevs` of the virtual controllers, which are added by an attach and deleted when an
event is added and enough ports are free, the ports of each controller, and the counters of the
ports in use: `vhci_using_ports`, `using_ports` of each controller and `using_port` of each port.

An attach has three sections: `vhci_get_device`, the section that takes the port or fails, and
`vhci_put_device` if it has failed.  `vhci_put_device` itself has two, the decrement of `using_port`
and that of the counters, and the event work writes the status of a port in a section of its own
before it calls `vhci_put_device`.  A shutdown does not touch what is modelled.
-/

namespace Usbip.Ports

open Usbip.Core Usbip.Common Usbip.Event

def EAGAIN : BitVec 32 := 11

/-- The module parameters as `vhci_hcd_init` leaves them, and the build's constants. -/
structure Params where
  /-- `VHCI_HC_PORTS`. -/
  hcPorts : Nat := 8
  /-- `VHCI_FREE_HCS`. -/
  freeHcs : Nat := 2
  /-- `vhci_max_controllers`. -/
  maxControllers : Nat
  /-- `vhci_init_controllers`. -/
  initControllers : Nat
  hcPorts_pos : 0 < hcPorts := by decide
  init_pos : 0 < initControllers
  init_le : initControllers ≤ maxControllers

structure Port where
  status : UsbipDeviceStatus := .vdevNull
  event : BitVec 64 := 0
  /-- `atomic_t using_port`. -/
  usingPort : Int := 0
  /-- The number of attaches past `vhci_get_device` that have not taken the port nor failed. -/
  attaching : Nat := 0
  /-- The number of attaches that have failed and have still to call `vhci_put_device`. -/
  failing : Nat := 0
  /-- An attach has taken the port, and its connection has not been reset or given up. -/
  connected : Bool := false
  /-- The event work has written the status and is about to call `vhci_put_device`; it has ended a
  connection or not. -/
  release : Option Bool := none
  deriving DecidableEq

/-- The port is held by an attach in progress or a connection. -/
def Port.Held (q : Port) : Prop :=
  0 < q.attaching ∨ 0 < q.failing ∨ q.connected = true ∨ q.release = some true

instance (q : Port) : Decidable q.Held := inferInstanceAs (Decidable (_ ∨ _))

/-- The driver data of a controller. -/
structure Hcd where
  usingPorts : Int := 0
  vdev : Nat → Port := fun _ => {}
  /-- The number of `vhci_put_device` that have cleared a `using_port` and not decremented the
  counters yet. -/
  owed : Nat := 0

structure State where
  /-- `vhci_pdevs`; a controller whose probe has failed has no driver data. -/
  pdevs : Nat → Option (Option Hcd)
  numControllers : Int
  vhciUsingPorts : Int := 0

/-- What registering a new controller does in `vhci_get_device`. -/
inductive Register
  | failed
  /-- The wait for `vhci_start` is interrupted, the probe having failed. -/
  | unprobed
  /-- The wait is interrupted. -/
  | interrupted
  | started
  deriving DecidableEq

def Hcd.setPort (v : Hcd) (i : Nat) (q : Port) : Hcd := { v with vdev := Function.update v.vdev i q }

def State.setPdev (s : State) (n : Nat) (e : Option (Option Hcd)) : State :=
  { s with pdevs := Function.update s.pdevs n e }

def State.setHcd (s : State) (n : Nat) (v : Hcd) : State := s.setPdev n (some (some v))

/-- Act on a port that exists. -/
def State.onPort (s : State) (n i : Nat) (f : Port → Option Port) : Option State :=
  match s.pdevs n with
  | some (some v) => (f (v.vdev i)).map fun q => s.setHcd n (v.setPort i q)
  | _ => none

/-! ## Taking and giving back a port -/

/-- Source: `vhci_hcd.c`, `__vhci_get_device`. -/
def getDevice (n i : Nat) (v : Hcd) (s : State) : State :=
  let q := v.vdev i
  { s.setHcd n { v.setPort i { q with usingPort := 1, attaching := q.attaching + 1 } with
      usingPorts := v.usingPorts + 1 } with
    vhciUsingPorts := s.vhciUsingPorts + 1 }

/-- Source: `vhci_hcd.c`, `__add_platform_device`. -/
def addPlatformDevice (n : Nat) (v : Option Hcd) (s : State) : State :=
  { s.setPdev n (some v) with numControllers := s.numControllers + 1 }

/-- Nothing when the driver data of the controller is missing and is used.
Source: `vhci_hcd.c`, `vhci_get_device`. -/
def vhciGetDevice (n i : Nat) (r : Register) (s : State) : Option State :=
  match s.pdevs n with
  | some (some v) => some (getDevice n i v s)
  | some none => none
  | none =>
      match r with
      | .failed => some s
      | .unprobed => some (addPlatformDevice n none s)
      | .interrupted => some (addPlatformDevice n (some {}) s)
      | .started => some (getDevice n i {} (addPlatformDevice n (some {}) s))

/-- The section of an attach that takes the port.
Source: `vhci_sysfs.c`, `store_attach`. -/
def storeAttach (linked : Bool) (q : Port) : Option Port :=
  if q.attaching = 0 then none
  else if q.status = .vdevNull ∧ linked then
    some { q with status := .vdevNotassigned, attaching := q.attaching - 1, connected := true }
  else some { q with attaching := q.attaching - 1, failing := q.failing + 1 }

/-- The first section of `vhci_put_device`.
Source: `vhci_hcd.c`, `vhci_put_device`. -/
def putDevice (i : Nat) (q : Port) (v : Hcd) : Hcd :=
  { v.setPort i { q with usingPort := q.usingPort - 1 } with
    owed := v.owed + if q.usingPort - 1 = 0 then 1 else 0 }

/-- The second section of `vhci_put_device`. -/
def countOut (n : Nat) (s : State) : Option State :=
  match s.pdevs n with
  | some (some v) =>
      if v.owed = 0 then none
      else some { s.setHcd n { v with usingPorts := v.usingPorts - 1, owed := v.owed - 1 } with
        vhciUsingPorts := s.vhciUsingPorts - 1 }
  | _ => none

/-- `vhci_put_device` of an attach that has failed. -/
def failPut (n i : Nat) (s : State) : Option State :=
  match s.pdevs n with
  | some (some v) =>
      let q := v.vdev i
      if q.failing = 0 then none
      else some (s.setHcd n (putDevice i { q with failing := q.failing - 1 } v))
  | _ => none

/-- `vhci_put_device` of the event work. -/
def releasePut (n i : Nat) (s : State) : Option State :=
  match s.pdevs n with
  | some (some v) =>
      let q := v.vdev i
      if q.release = none then none
      else some (s.setHcd n (putDevice i { q with release := none } v))
  | _ => none

/-- The section in which the event work writes the status.
Source: `vhci_hcd.c`, `vhci_device_reset` and `vhci_device_unusable`. -/
def endConnection (status : UsbipDeviceStatus) (q : Port) : Option Port :=
  if q.release = none then
    some { q with status, release := some q.connected, connected := false }
  else none

/-! ## Deleting a controller -/

/-- What the loop over the controllers ends with. -/
inductive Scan
  | nothing
  | delete (n : Nat)
  /-- At a controller without driver data. -/
  | crash
  deriving DecidableEq

/-- The loop, from `vhci_pdevs[n]` down to `vhci_pdevs[1]`.
Source: `vhci_hcd.c`, `__try_del_platform_device`. -/
def tryDelScan (s : State) : Nat → Scan
  | 0 => .nothing
  | n + 1 =>
      match s.pdevs (n + 1) with
      | none => tryDelScan s n
      | some none => .crash
      | some (some v) => if v.usingPorts = 0 then .delete (n + 1) else tryDelScan s n

/-- Source: `vhci_hcd.c`, `__del_platform_device`. -/
def delPlatformDevice (n : Nat) (s : State) : State :=
  { s.setPdev n none with numControllers := s.numControllers - 1 }

/-- There are enough free ports to delete a controller; the numbers are unsigned. -/
def EnoughFree (p : Params) (s : State) : Prop :=
  (p.initControllers : Int) < s.numControllers ∧
    ((p.hcPorts * p.freeHcs : Nat) : Int) ≤
      (s.numControllers * p.hcPorts - s.vhciUsingPorts) % 2 ^ 32

instance (p : Params) (s : State) : Decidable (EnoughFree p s) :=
  inferInstanceAs (Decidable (_ ∧ _))

/-- `lock` tells whether `spin_trylock` succeeds.
Source: `vhci_hcd.c`, `try_del_platform_device`. -/
def tryDelPlatformDevice (p : Params) (lock : Bool) (s : State) : Option State :=
  if lock ∧ EnoughFree p s then
    match tryDelScan s (p.maxControllers - 1) with
    | .nothing => some s
    | .delete n => some (delPlatformDevice n s)
    | .crash => none
  else some s

/-! ## Detaching a port -/

/-- What a write to `detach` comes to. -/
inductive Outcome
  | failed (e : Int)
  /-- `vhci_pdevs[pdev_nr]` is NULL, and is used. -/
  | nullPdev
  /-- `try_del_platform_device` has used a controller without driver data. -/
  | crashed
  /-- `try_del_platform_device` has deleted the controller, and its port is used. -/
  | deleted
  /-- The event has been added to a port. -/
  | added (n i : Nat)
  deriving DecidableEq

/-- The digits at the head of a string, and the rest. -/
def digits : List Char → List Char × List Char
  | [] => ([], [])
  | ch :: l => if ch.isDigit then ((digits l).map (ch :: ·) id) else ([], ch :: l)

/-- The number that digits stand for. -/
def ofDigits (l : List Char) : Nat := l.foldl (fun n ch => 10 * n + (ch.toNat - '0'.toNat)) 0

/-- A number without a sign, possibly with a newline after it.
Source: `<linux/kernel.h>`, `kstrtoull` with base 10. -/
def kstrtoull (l : List Char) : Option Nat :=
  let (ds, rest) := digits l
  if ds = [] then none
  else if rest = [] ∨ rest = ['\n'] then some (ofDigits ds)
  else none

/-- Source: `<linux/kernel.h>`, `kstrtoint` with base 10. -/
def kstrtoint (l : List Char) : Option Int :=
  let value :=
    match l with
    | '-' :: l => (kstrtoull l).map fun n => -(n : Int)
    | '+' :: l => (kstrtoull l).map fun n => (n : Int)
    | l => (kstrtoull l).map fun n => (n : Int)
  value.filter fun z => -2 ^ 31 ≤ z ∧ z < 2 ^ 31

example : kstrtoint ['-', '1', '\n'] = some (-1) := by decide

/-- Source: `vhci.h`, `port_to_pdev_nr`. -/
def portToPdevNr (p : Params) (port : BitVec 32) : Nat := port.toNat / p.hcPorts

/-- Source: `vhci.h`, `port_to_rhport`. -/
def portToRhport (p : Params) (port : BitVec 32) : Nat := port.toNat % p.hcPorts

/-- Source: `vhci_sysfs.c`, `valid_port`. -/
def ValidPort (p : Params) (n i : Nat) : Prop := n < p.maxControllers ∧ i < p.hcPorts

instance (p : Params) (n i : Nat) : Decidable (ValidPort p n i) := inferInstanceAs (Decidable (_ ∧ _))

/-- Source: `usbip_event.c`, `usbip_event_add`. -/
def addEvent (e : BitVec 64) (q : Port) : Port := { q with event := q.event ||| e }

/-- Source: `vhci_hcd.c`, `vhci_event_add`, outside the event work. -/
def vhciEventAdd (p : Params) (lock : Bool) (n i : Nat) (e : BitVec 64) (s : State) :
    Outcome × State :=
  match tryDelPlatformDevice p lock s with
  | none => (.crashed, s)
  | some t =>
      match t.pdevs n with
      | some (some v) => (.added n i, t.setHcd n (v.setPort i (addEvent e (v.vdev i))))
      | _ => (.deleted, t)

/-- Source: `vhci_sysfs.c`, `vhci_port_disconnect`. -/
def vhciPortDisconnect (p : Params) (lock : Bool) (n i : Nat) (v : Hcd) (s : State) :
    Outcome × State :=
  if (v.vdev i).status = .vdevNull then (.failed (-EINVAL.toInt), s)
  else vhciEventAdd p lock n i eventDown s

/-- Source: `vhci_sysfs.c`, `store_detach`. -/
def storeDetach (p : Params) (lock : Bool) (buf : List Char) (s : State) : Outcome × State :=
  match kstrtoint buf with
  | none => (.failed (-EINVAL.toInt), s)
  | some z =>
      let port := BitVec.ofInt 32 z
      let n := portToPdevNr p port
      let i := portToRhport p port
      if ¬ ValidPort p n i then (.failed (-EINVAL.toInt), s)
      else
        match s.pdevs n with
        | none => (.nullPdev, s)
        | some none => (.failed (-EAGAIN.toInt), s)
        | some (some v) => vhciPortDisconnect p lock n i v s

/-! ## The machine -/

inductive Action
  /-- `vhci_get_device`, called by an attach. -/
  | getDevice (n i : Nat) (r : Register)
  /-- The section of an attach that takes the port, or fails. -/
  | attach (n i : Nat) (linked : Bool)
  | failPut (n i : Nat)
  | releasePut (n i : Nat)
  | countOut (n : Nat)
  /-- The event work writes the status. -/
  | reset (n i : Nat)
  | unusable (n i : Nat)
  /-- A write to `detach`. -/
  | detach (lock : Bool) (buf : List Char)
  /-- `vhci_event_add`, called for something else. -/
  | eventAdd (lock : Bool) (n i : Nat) (e : BitVec 64)
  /-- The event work clears bits. -/
  | unsetEvent (n i : Nat) (e : BitVec 64)
  deriving DecidableEq

/-- The state after an operation that has used nothing that is not there. -/
def settled (x : Outcome × State) : Option State :=
  match x.1 with
  | .failed _ | .added _ _ => some x.2
  | .nullPdev | .crashed | .deleted => none

/-- The state an action leads to. -/
def step (p : Params) (s : State) : Action → Option State
  | .getDevice n i r => if ValidPort p n i then vhciGetDevice n i r s else none
  | .attach n i linked => if i < p.hcPorts then s.onPort n i (storeAttach linked) else none
  | .failPut n i => if i < p.hcPorts then failPut n i s else none
  | .releasePut n i => if i < p.hcPorts then releasePut n i s else none
  | .countOut n => countOut n s
  | .reset n i => if i < p.hcPorts then s.onPort n i (endConnection .vdevNull) else none
  | .unusable n i => if i < p.hcPorts then s.onPort n i (endConnection .vdevError) else none
  | .detach lock buf => settled (storeDetach p lock buf s)
  | .eventAdd lock n i e =>
      if i < p.hcPorts then settled (vhciEventAdd p lock n i e s) else none
  | .unsetEvent n i e =>
      if i < p.hcPorts then s.onPort n i fun q => some { q with event := q.event &&& ~~~e } else none

/-- The module has been loaded. -/
def start (p : Params) : State where
  pdevs n := if n < p.initControllers then some (some {}) else none
  numControllers := p.initControllers

def machine (p : Params) : Machine State Action where
  init s := s = start p
  step := step p

end Usbip.Ports
