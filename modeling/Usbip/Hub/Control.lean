import Usbip.Common.Basic

/-!
# The requests to the root hub

`vhci_hub_control` with every access it makes to `port_status`, `prev_port_status` and `vdev`, and
the amount of every shift.  The index is made from the low byte of `wIndex` and the shift amount is
`wValue`, and no branch checks either of them: a request stays inside the hub exactly when it is
`Contained`.

The arrays are functions of any integer, so that what a wrong index reads or writes is a value too:
whatever stands in memory there.
-/

namespace Usbip.Hub

open Usbip.Common

/-! ## The status of a port -/

/-- The features of a port, which are the positions of the bits of its status.
Source: `<linux/usb/ch11.h>`. -/
def featConnection : Nat := 0
def featEnable : Nat := 1
def featSuspend : Nat := 2
def featReset : Nat := 4
def featPower : Nat := 8
def featLowSpeed : Nat := 9
def featHighSpeed : Nat := 10
def featCConnection : Nat := 16
def featCSuspend : Nat := 18
def featCReset : Nat := 20

/-- `1 << f`. -/
def stat (f : Nat) : BitVec 32 := 1#32 <<< f

/-- Source: `<linux/usb/ch9.h>`, `enum usb_device_speed`. -/
def usbSpeedLow : BitVec 32 := 1
def usbSpeedFull : BitVec 32 := 2
def usbSpeedHigh : BitVec 32 := 3
def usbSpeedWireless : BitVec 32 := 4

/-- The bit that stands for a speed. -/
def speedStat (speed : BitVec 32) : BitVec 32 :=
  if speed = usbSpeedHigh then stat featHighSpeed
  else if speed = usbSpeedLow then stat featLowSpeed
  else 0

/-- What the hub reads of a device.
Source: `vhci.h`, `struct vhci_device`. -/
structure VhciDevice where
  speed : BitVec 32 := 0
  status : UsbipDeviceStatus := .vdevNull
  deriving DecidableEq

/-- Source: `vhci.h`, `struct vhci_hcd`. -/
structure VhciHcd where
  portStatus : Int → BitVec 32 := fun _ => 0
  resuming : Bool := false
  reTimeout : BitVec 64 := 0
  vdev : Int → VhciDevice := fun _ => {}

/-- Change the status of a port. -/
def VhciHcd.write (rhport : Int) (status : BitVec 32) (h : VhciHcd) : VhciHcd :=
  { h with portStatus := Function.update h.portStatus rhport status }

/-- The number of ports that the driver is built with is allowed. -/
lemma eight_le : 8 ≤ 31 := by decide

/-- What `vhci_hub_control` is built and called with. -/
structure Env where
  /-- `VHCI_HC_PORTS`. -/
  hcPorts : Nat := 8
  /-- It is at most `USB_MAXCHILDREN`. -/
  hcPorts_le : hcPorts ≤ 31 := by first | exact eight_le | decide
  /-- `usbip_dbg_flag_vhci_rh`. -/
  debug : Bool := false
  /-- `HCD_HW_ACCESSIBLE`. -/
  accessible : Bool := true
  msecsToJiffies : Nat → BitVec 64 := BitVec.ofNat 64
  /-- What `1 << n` is on this machine when `n` is too large. -/
  wide : Nat → BitVec 32 := fun _ => 0

/-- `1 << n`. -/
def Env.shl (env : Env) (n : Nat) : BitVec 32 := if n < 32 then stat n else env.wide n

/-- `time_after(a, b)`. -/
def timeAfter (a b : BitVec 64) : Bool := (b - a).toInt < 0

/-! ## The requests -/

/-- Source: `<linux/usb/hcd.h>`. -/
inductive TypeReq
  | clearHubFeature
  | clearPortFeature
  | getHubDescriptor
  | getHubStatus
  | getPortStatus
  | setHubFeature
  | setPortFeature
  | other
  deriving DecidableEq

def TypeReq.ofCode (typeReq : BitVec 16) : TypeReq :=
  if typeReq = 0x2001 then .clearHubFeature
  else if typeReq = 0x2301 then .clearPortFeature
  else if typeReq = 0xa006 then .getHubDescriptor
  else if typeReq = 0xa000 then .getHubStatus
  else if typeReq = 0xa300 then .getPortStatus
  else if typeReq = 0x2003 then .setHubFeature
  else if typeReq = 0x2303 then .setPortFeature
  else .other

structure Request where
  typeReq : BitVec 16
  wValue : BitVec 16 := 0
  wIndex : BitVec 16 := 0
  wLength : BitVec 16 := 0
  deriving DecidableEq

/-- The index of the port, which `wIndex` counts from 1. -/
def Request.rhport (r : Request) : Int := (r.wIndex.toNat % 256 : Nat) - 1

def ETIMEDOUT : BitVec 32 := 110

/-- Source: `vhci_hcd.c`, `hub_descriptor`. -/
structure HubDescriptor where
  bDescLength : Nat := 9
  bDescriptorType : Nat := 0x29
  bNbrPorts : Nat
  wHubCharacteristics : Nat := 0x0001
  deviceRemovable : List Nat := [0xff, 0xff]
  deriving DecidableEq

/-- What is written to `buf`. -/
inductive Reply
  | none
  | descriptor (d : HubDescriptor)
  | hubStatus (status : BitVec 32)
  /-- The two halves of the status of the port. -/
  | portStatus (status change : BitVec 16)
  deriving DecidableEq

/-- An access to an array of the hub, or a shift. -/
inductive Access
  | portStatus (i : Int)
  | prevPortStatus (i : Int)
  | vdev (i : Int)
  | shift (amount : Nat)
  deriving DecidableEq

/-- What a branch of `vhci_hub_control` leaves. -/
structure Outcome where
  hub : VhciHcd
  ret : Int := 0
  reply : Reply := .none
  accesses : List Access := []

/-! ## `vhci_hub_control` -/

/-- Source: `vhci_hcd.c`, `vhci_hub_control`, ClearPortFeature. -/
def clearPortFeature (env : Env) (jiffies : BitVec 64) (wValue : Nat) (p : Int) (h : VhciHcd) :
    Outcome :=
  let status := h.portStatus p
  if wValue = featSuspend then
    if status &&& stat featSuspend ≠ 0 then
      { hub := { h with resuming := true, reTimeout := jiffies + env.msecsToJiffies 20 }
        accesses := [.portStatus p] }
    else { hub := h, accesses := [.portStatus p] }
  else if wValue = featPower then
    { hub := { h.write p 0 with resuming := false }, accesses := [.portStatus p] }
  else if wValue = featCReset then
    -- the speed is set, and the switch falls through to the default
    { hub := h.write p ((status ||| speedStat (h.vdev p).speed) &&& ~~~env.shl wValue)
      accesses := [.vdev p, .portStatus p, .shift wValue, .portStatus p] }
  else
    { hub := h.write p (status &&& ~~~env.shl wValue), accesses := [.shift wValue, .portStatus p] }

/-- A resume has lasted long enough. -/
def resumeDue (jiffies : BitVec 64) (h : VhciHcd) : Bool :=
  h.resuming && timeAfter jiffies h.reTimeout

/-- The end of a resume, which the next GetPortStatus for any port finds.
Source: `vhci_hcd.c`, `vhci_hub_control`, GetPortStatus. -/
def endResume (jiffies : BitVec 64) (p : Int) (h : VhciHcd) : VhciHcd :=
  if resumeDue jiffies h then
    { h.write p ((h.portStatus p ||| stat featCSuspend) &&& ~~~stat featSuspend) with
      resuming := false, reTimeout := 0 }
  else h

/-- A reset has lasted long enough. -/
def resetDue (jiffies : BitVec 64) (p : Int) (h : VhciHcd) : Bool :=
  h.portStatus p &&& stat featReset ≠ 0 ∧ timeAfter jiffies h.reTimeout = true

/-- The status of a port whose reset ends. -/
def resetStatus (status : BitVec 32) (v : VhciDevice) : BitVec 32 :=
  let status := (status ||| stat featCReset) &&& ~~~stat featReset
  if v.status = .vdevNotassigned then status ||| stat featEnable else status

/-- The end of a reset.
Source: `vhci_hcd.c`, `vhci_hub_control`, GetPortStatus. -/
def endReset (jiffies : BitVec 64) (p : Int) (h : VhciHcd) : VhciHcd :=
  if resetDue jiffies p h then
    { h.write p (resetStatus (h.portStatus p) (h.vdev p)) with reTimeout := 0 }
  else h

/-- Source: `vhci_hcd.c`, `vhci_hub_control`, GetPortStatus. -/
def getPortStatus (env : Env) (jiffies : BitVec 64) (wIndex : Nat) (p : Int) (h : VhciHcd) :
    Outcome :=
  let h₁ := endResume jiffies p h
  let h₂ := endReset jiffies p h₁
  let status := h₂.portStatus p
  { hub := h₂
    -- the port number is found to be wrong, but the branch goes on
    ret := if wIndex > env.hcPorts ∨ wIndex < 1 then -EPIPE.toInt else 0
    reply := .portStatus (status.setWidth 16) ((status >>> 16).setWidth 16)
    accesses :=
      (if resumeDue jiffies h then
        [.shift featCSuspend, .portStatus p, .shift featSuspend, .portStatus p] else []) ++
      [.portStatus p, .shift featReset] ++
      (if resetDue jiffies p h₁ then
        [.shift featCReset, .portStatus p, .shift featReset, .portStatus p, .vdev p] ++
          (if (h₁.vdev p).status = .vdevNotassigned then [.portStatus p] else [])
        else []) ++
      [.portStatus p, .portStatus p, .shift 16] }

/-- Source: `vhci_hcd.c`, `vhci_hub_control`, SetPortFeature. -/
def setPortFeature (env : Env) (jiffies : BitVec 64) (wValue : Nat) (p : Int) (h : VhciHcd) :
    Outcome :=
  let status := h.portStatus p
  if wValue = featSuspend then { hub := h }
  else if wValue = featReset then
    let running : Bool := status &&& stat featEnable ≠ 0
    let status := if running then
      status &&& ~~~(stat featEnable ||| stat featLowSpeed ||| stat featHighSpeed) else status
    { hub := { h.write p (status ||| env.shl wValue) with
        reTimeout := jiffies + env.msecsToJiffies 50 }
      accesses := [.portStatus p] ++ (if running then [.portStatus p] else []) ++
        [.shift wValue, .portStatus p] }
  else
    { hub := h.write p (status ||| env.shl wValue), accesses := [.shift wValue, .portStatus p] }

/-- The switch over the type of the request. -/
def dispatch (env : Env) (jiffies : BitVec 64) (r : Request) (h : VhciHcd) : Outcome :=
  match TypeReq.ofCode r.typeReq with
  | .clearHubFeature => { hub := h }
  | .clearPortFeature => clearPortFeature env jiffies r.wValue.toNat r.rhport h
  | .getHubDescriptor => { hub := h, reply := .descriptor { bNbrPorts := env.hcPorts } }
  | .getHubStatus => { hub := h, reply := .hubStatus 0 }
  | .getPortStatus => getPortStatus env jiffies r.wIndex.toNat r.rhport h
  | .setHubFeature => { hub := h, ret := -EPIPE.toInt }
  | .setPortFeature => setPortFeature env jiffies r.wValue.toNat r.rhport h
  | .other => { hub := h, ret := -EPIPE.toInt }

/-- The statuses that are printed when debugging is on. -/
def dumpAccesses (env : Env) (p : Int) : List Access :=
  if env.debug ∧ 0 ≤ p then [.prevPortStatus p, .portStatus p] else []

/-- Source: `vhci_hcd.c`, `vhci_hub_control`. -/
def vhciHubControl (env : Env) (jiffies : BitVec 64) (r : Request) (h : VhciHcd) : Outcome :=
  if ¬ env.accessible then { hub := h, ret := -ETIMEDOUT.toInt }
  else
    let o := dispatch env jiffies r h
    { o with accesses := o.accesses ++ dumpAccesses env r.rhport }

end Usbip.Hub
