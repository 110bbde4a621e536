import Usbip.Core.Machine
import Usbip.Hub.Bounds

/-!
# The root hub over its history

The ports of one controller: devices come and go, and requests are made to the ports, each at its
time.  Beside the hub the state keeps which device is attached to a port, which port has begun the
resume that is going on, and what GetPortStatus has returned.

A request changes the status of its own port only (`portStatus_control`), but the time at which a
reset or a resume ends is one for all ports.
-/

namespace Usbip.Hub

open Usbip.Core Usbip.Common

/-- Source: `vhci_hcd.c`, `rh_port_connect`. -/
def rhPortConnect (p : Int) (speed : BitVec 32) (h : VhciHcd) : VhciHcd :=
  h.write p (h.portStatus p ||| (stat featConnection ||| stat featCConnection) ||| speedStat speed)

/-- Source: `vhci_hcd.c`, `rh_port_disconnect`. -/
def rhPortDisconnect (p : Int) (h : VhciHcd) : VhciHcd :=
  h.write p ((h.portStatus p &&& ~~~stat featConnection) ||| stat featCConnection)

structure State where
  hub : VhciHcd := {}
  /-- The speed of the device that is attached to a port. -/
  attached : Int → Option (BitVec 32) := fun _ => none
  /-- The port that has begun the last resume. -/
  resumer : Option Int := none
  /-- What GetPortStatus has returned, with its port. -/
  replies : List (Int × Int × Reply) := []

variable {env : Env}

inductive Action (env : Env)
  /-- `rh_port_connect`. -/
  | connect (p : Fin env.hcPorts) (speed : BitVec 32)
  /-- `rh_port_disconnect`. -/
  | disconnect (p : Fin env.hcPorts)
  /-- `store_attach`, `vhci_urb_enqueue` and `vhci_device_reset` change the device. -/
  | device (p : Fin env.hcPorts) (v : VhciDevice)
  /-- `vhci_hub_control` for a port. -/
  | control (jiffies : BitVec 64) (typeReq wValue : BitVec 16) (p : Fin env.hcPorts)

/-- The port of an action. -/
def Action.port : Action env → Int
  | connect p _ | disconnect p | device p _ | control _ _ _ p => (p : Nat)

/-- A request for port `p`. -/
def portRequest (typeReq wValue : BitVec 16) (p : Fin env.hcPorts) : Request :=
  { typeReq, wValue, wIndex := BitVec.ofNat 16 (p + 1) }

/-- The request begins a resume. -/
def beginsResume (typeReq wValue : BitVec 16) (p : Int) (h : VhciHcd) : Bool :=
  TypeReq.ofCode typeReq = .clearPortFeature ∧ wValue.toNat = featSuspend ∧
    (h.portStatus p).getLsbD featSuspend = true

/-- A request, with what it returns when it is GetPortStatus. -/
def control (env : Env) (jiffies : BitVec 64) (typeReq wValue : BitVec 16) (p : Fin env.hcPorts)
    (s : State) : State :=
  let i : Int := (p : Nat)
  let o := vhciHubControl env jiffies (portRequest typeReq wValue p) s.hub
  { s with
    hub := o.hub
    resumer := if env.accessible ∧ beginsResume typeReq wValue i s.hub then some i else s.resumer
    replies := s.replies ++
      if TypeReq.ofCode typeReq = .getPortStatus then [(i, o.ret, o.reply)] else [] }

/-- The state an action leads to. -/
def step (env : Env) (s : State) : Action env → Option State
  | .connect p speed => some { s with
      hub := rhPortConnect (p : Nat) speed s.hub
      attached := Function.update s.attached (p : Nat) (some speed) }
  | .disconnect p => some { s with
      hub := rhPortDisconnect (p : Nat) s.hub
      attached := Function.update s.attached (p : Nat) none }
  | .device p v => some { s with
      hub := { s.hub with vdev := Function.update s.hub.vdev (p : Nat) v } }
  | .control jiffies typeReq wValue p => some (control env jiffies typeReq wValue p s)

/-- A controller to which nothing was ever attached. -/
def machine (env : Env) : Machine State (Action env) where
  init s := s = {}
  step := step env

/-- A run may start with a new controller. -/
lemma init_new : (machine env).init {} := rfl

/-! ## What a request changes -/

variable {jiffies : BitVec 64} {h : VhciHcd} {p q : Int} {wValue : Nat}

/-- The request for a port is dispatched to it. -/
@[simp] lemma rhport_portRequest (typeReq wValue : BitVec 16) (p : Fin env.hcPorts) :
    (portRequest typeReq wValue p).rhport = (p : Nat) := by
  have hp := p.isLt
  have hports := env.hcPorts_le
  unfold Request.rhport portRequest
  dsimp only
  rw [BitVec.toNat_ofNat, Nat.mod_eq_of_lt (show (p : Nat) + 1 < 2 ^ 16 by omega),
    Nat.mod_eq_of_lt (by omega)]
  omega

/-- Writing the status of one port leaves the others alone. -/
lemma portStatus_write {w : BitVec 32} (hq : q ≠ p) :
    (h.write p w).portStatus q = h.portStatus q :=
  Function.update_of_ne hq _ _

/-- The status that was written. -/
@[simp] lemma portStatus_write_self {w : BitVec 32} : (h.write p w).portStatus p = w :=
  Function.update_self _ _ _

/-- Writing a status leaves the devices alone. -/
@[simp] lemma vdev_write {w : BitVec 32} : (h.write p w).vdev = h.vdev := rfl

/-- The end of a resume is written to one port. -/
lemma portStatus_endResume (hq : q ≠ p) :
    (endResume jiffies p h).portStatus q = h.portStatus q := by
  unfold endResume
  split
  · exact portStatus_write hq
  · rfl

/-- The end of a reset is written to one port. -/
lemma portStatus_endReset (hq : q ≠ p) :
    (endReset jiffies p h).portStatus q = h.portStatus q := by
  unfold endReset
  split
  · exact portStatus_write hq
  · rfl

/-- The end of a resume leaves the devices alone. -/
lemma vdev_endResume : (endResume jiffies p h).vdev = h.vdev := by
  unfold endResume
  split <;> rfl

/-- The end of a reset leaves the devices alone. -/
lemma vdev_endReset : (endReset jiffies p h).vdev = h.vdev := by
  unfold endReset
  split <;> rfl

/-- A request leaves the devices and the other ports alone. -/
lemma dispatch_frame (env : Env) (jiffies : BitVec 64) (r : Request) (h : VhciHcd) :
    (dispatch env jiffies r h).hub.vdev = h.vdev ∧
      ∀ q, q ≠ r.rhport → (dispatch env jiffies r h).hub.portStatus q = h.portStatus q := by
  unfold dispatch
  cases TypeReq.ofCode r.typeReq with
  | clearHubFeature | getHubDescriptor | getHubStatus | setHubFeature | other =>
      exact ⟨rfl, fun _ _ => rfl⟩
  | clearPortFeature =>
      dsimp only
      unfold clearPortFeature
      dsimp only
      split_ifs
      · exact ⟨rfl, fun _ _ => rfl⟩
      · exact ⟨rfl, fun _ _ => rfl⟩
      · exact ⟨rfl, fun _ hq => portStatus_write hq⟩
      · exact ⟨rfl, fun _ hq => portStatus_write hq⟩
      · exact ⟨rfl, fun _ hq => portStatus_write hq⟩
  | getPortStatus =>
      refine ⟨vdev_endReset.trans vdev_endResume, fun q hq => ?_⟩
      exact (portStatus_endReset hq).trans (portStatus_endResume hq)
  | setPortFeature =>
      dsimp only
      unfold setPortFeature
      dsimp only
      split_ifs
      · exact ⟨rfl, fun _ _ => rfl⟩
      · exact ⟨rfl, fun _ hq => portStatus_write hq⟩
      · exact ⟨rfl, fun _ hq => portStatus_write hq⟩
      · exact ⟨rfl, fun _ hq => portStatus_write hq⟩

/-- A controller that cannot be reached does nothing. -/
lemma vhciHubControl_hub (env : Env) (jiffies : BitVec 64) (r : Request) (h : VhciHcd) :
    (vhciHubControl env jiffies r h).hub =
      if env.accessible then (dispatch env jiffies r h).hub else h := by
  unfold vhciHubControl
  cases env.accessible <;> rfl

end Usbip.Hub
