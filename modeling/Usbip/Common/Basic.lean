import Mathlib

/-!
# Numbers the drivers share

The seqnum a request travels under, the error numbers the drivers compare with or store in
`urb->status`, as the C `int` they are negated in, the states of a `usbip_device`, and the sizes
that have literals.
-/

namespace Usbip.Common

/-- The number a request travels under.
Source: `usbip_common.h`, `struct usbip_header_basic`. -/
abbrev Seqnum := BitVec 32

/-- Whether a request is on a list of seqnums. -/
instance (n : Seqnum) (l : List Seqnum) : Decidable (n ∈ l) := inferInstance

def ENOENT : BitVec 32 := 2
def ENOMEM : BitVec 32 := 12
def EXDEV : BitVec 32 := 18
def ENODEV : BitVec 32 := 19
def EINVAL : BitVec 32 := 22
def EPIPE : BitVec 32 := 32
def EIDRM : BitVec 32 := 43
def EPROTO : BitVec 32 := 71
def ECONNRESET : BitVec 32 := 104
def EINPROGRESS : BitVec 32 := 115

/-- Source: `uapi/linux/usbip.h`, `enum usbip_device_status`. -/
inductive UsbipDeviceStatus
  | sdevAvailable
  | sdevUsed
  | sdevError
  | vdevNull
  | vdevNotassigned
  | vdevUsed
  | vdevError
  deriving DecidableEq

/-! ## Sizes: two calls, a setup packet or the ports of a hub, endpoints -/

instance neZero_two : NeZero 2 := ⟨by decide⟩

instance neZero_eight : NeZero 8 := ⟨by decide⟩

instance neZero_sixteen : NeZero 16 := ⟨by decide⟩

instance neZero_thirtyOne : NeZero 31 := ⟨by decide⟩

end Usbip.Common
