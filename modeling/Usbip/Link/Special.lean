import Usbip.Tools.Network
import Usbip.Common.Urb

/-!
# Requests that a stub carries out itself

A stub looks at the setup packet of a control request before it submits it, and tells its own stack
about a halt that is cleared, a setting or configuration that is chosen and a port that is reset.
The kernel compares `bRequestType` whole; the port to user space compares the recipient only, and
for a reset the kind only, which is never equal to the recipient and kind it is compared with.
`stubs_classify_same_iff` says for which packets the two stubs agree.
-/

namespace Usbip.Link

open Usbip.Core Usbip.Common Usbip.Tools

/-! ## Setup packets -/

/-- The eight bytes of a setup packet. -/
abbrev Setup := Fin 8 → Byte

/-- Source: `<linux/usb/ch9.h>`, `struct usb_ctrlrequest`, and libusb,
`struct libusb_control_setup`,
whose first field is `bmRequestType`. -/
def Setup.bRequestType (req : Setup) : Byte := req 0

def Setup.bRequest (req : Setup) : Byte := req 1

/-- A host has the half words of the packet in its memory as they came. -/
def Setup.wValue (e : Endian) (req : Setup) : BitVec 16 := halfOf e [req 2, req 3]

/-- Source: `<asm/byteorder.h>`, `le16_to_cpu`, and libusb, `libusb_cpu_to_le16`. -/
def le16ToCpu : Endian → BitVec 16 → BitVec 16
  | .little, x => x
  | .big, x => swab16 x

/-- Source: `<linux/usb/ch9.h>` and `<linux/usb/ch11.h>`, and `stub_common.h`; libusb has the same
values for its own names. -/
def USB_REQ_CLEAR_FEATURE : Byte := 0x01
def USB_REQ_SET_FEATURE : Byte := 0x03
def USB_REQ_SET_CONFIGURATION : Byte := 0x09
def USB_REQ_SET_INTERFACE : Byte := 0x0b
def USB_RECIP_DEVICE : Byte := 0x00
def USB_RECIP_INTERFACE : Byte := 0x01
def USB_RECIP_ENDPOINT : Byte := 0x02
def USB_RECIP_MASK : Byte := 0x1f
def USB_TYPE_MASK : Byte := 0x60
def USB_RT_PORT : Byte := 0x20 ||| 0x03
def USB_ENDPOINT_HALT : BitVec 16 := 0
def USB_PORT_FEAT_RESET : BitVec 16 := 4

/-- Source: `stub_common.h`, `get_request_type`. -/
def getRequestType (rt : Byte) : Byte := rt &&& USB_TYPE_MASK

/-- Source: `stub_common.h`, `get_recipient`. -/
def getRecipient (rt : Byte) : Byte := rt &&& USB_RECIP_MASK

/-- What a control request is taken for. -/
inductive Special
  | clearHalt
  | setInterface
  | setConfiguration
  | resetDevice
  | ordinary
  deriving DecidableEq

/-! ## The stubs -/

variable (e : Endian) (req : Setup)

/-- Source: `stub_rx.c`, `is_clear_halt_cmd`. -/
def Kernel.isClearHaltCmd : Bool :=
  req.bRequest = USB_REQ_CLEAR_FEATURE ∧ req.bRequestType = USB_RECIP_ENDPOINT ∧
    req.wValue e = USB_ENDPOINT_HALT

/-- Source: `stub_rx.c`, `is_set_interface_cmd`. -/
def Kernel.isSetInterfaceCmd : Bool :=
  req.bRequest = USB_REQ_SET_INTERFACE ∧ req.bRequestType = USB_RECIP_INTERFACE

/-- Source: `stub_rx.c`, `is_set_configuration_cmd`. -/
def Kernel.isSetConfigurationCmd : Bool :=
  req.bRequest = USB_REQ_SET_CONFIGURATION ∧ req.bRequestType = USB_RECIP_DEVICE

/-- Source: `stub_rx.c`, `is_reset_device_cmd`. -/
def Kernel.isResetDeviceCmd : Bool :=
  req.bRequest = USB_REQ_SET_FEATURE ∧ req.bRequestType = USB_RT_PORT ∧
    le16ToCpu e (req.wValue e) = USB_PORT_FEAT_RESET

/-- Source: libusb stub's `stub_rx.c`, `is_clear_halt_cmd`. -/
def Libusb.isClearHaltCmd : Bool :=
  req.bRequest = USB_REQ_CLEAR_FEATURE ∧ getRecipient req.bRequestType = USB_RECIP_ENDPOINT ∧
    req.wValue e = USB_ENDPOINT_HALT

/-- Source: libusb stub's `stub_rx.c`, `is_set_interface_cmd`. -/
def Libusb.isSetInterfaceCmd : Bool :=
  req.bRequest = USB_REQ_SET_INTERFACE ∧ getRecipient req.bRequestType = USB_RECIP_INTERFACE

/-- Source: libusb stub's `stub_rx.c`, `is_set_configuration_cmd`. -/
def Libusb.isSetConfigurationCmd : Bool :=
  req.bRequest = USB_REQ_SET_CONFIGURATION ∧ getRecipient req.bRequestType = USB_RECIP_DEVICE

/-- Source: libusb stub's `stub_rx.c`, `is_reset_device_cmd`. -/
def Libusb.isResetDeviceCmd : Bool :=
  req.bRequest = USB_REQ_SET_FEATURE ∧ getRequestType req.bRequestType = USB_RT_PORT ∧
    le16ToCpu e (req.wValue e) = USB_PORT_FEAT_RESET

/-- Source: `stub_rx.c`, `tweak_special_requests` on a URB with a setup packet. -/
def Kernel.tweakSpecialRequests (pipetype : PipeType) : Special :=
  if pipetype ≠ .control then .ordinary
  else if isClearHaltCmd e req then .clearHalt
  else if isSetInterfaceCmd req then .setInterface
  else if isSetConfigurationCmd req then .setConfiguration
  else if isResetDeviceCmd e req then .resetDevice
  else .ordinary

/-- Source: libusb stub's `stub_rx.c`, `tweak_special_requests`, on a transfer with a setup
packet. -/
def Libusb.tweakSpecialRequests (type : PipeType) : Special :=
  if type ≠ .control then .ordinary
  else if isClearHaltCmd e req then .clearHalt
  else if isSetInterfaceCmd req then .setInterface
  else if isSetConfigurationCmd req then .setConfiguration
  else if isResetDeviceCmd e req then .resetDevice
  else .ordinary

/-! ## Where they agree -/

/-- The value of the packet, which is in the order of the bus. -/
def Setup.value : BitVec 16 := req 3 ++ req 2

/-- The request, the recipient and the value are those of a request that is carried out, whatever
the direction is and whether or not it is a standard one. -/
def Setup.Looks : Prop :=
  req.bRequest = USB_REQ_CLEAR_FEATURE ∧ getRecipient req.bRequestType = USB_RECIP_ENDPOINT ∧
      req.value = USB_ENDPOINT_HALT ∨
    req.bRequest = USB_REQ_SET_INTERFACE ∧ getRecipient req.bRequestType = USB_RECIP_INTERFACE ∨
    req.bRequest = USB_REQ_SET_CONFIGURATION ∧ getRecipient req.bRequestType = USB_RECIP_DEVICE

/-- A standard request to the device. -/
def Setup.StandardOut : Prop := req.bRequestType &&& ~~~USB_RECIP_MASK = 0

/-- A reset of a port of a hub. -/
def Setup.PortReset : Prop :=
  req.bRequest = USB_REQ_SET_FEATURE ∧ req.bRequestType = USB_RT_PORT ∧
    req.value = USB_PORT_FEAT_RESET

/-- Swapping exchanges the two bytes. -/
lemma swab16_append (b₀ b₁ : Byte) : swab16 (b₀ ++ b₁) = b₁ ++ b₀ := by
  obtain ⟨hhigh, hlow⟩ := List.cons_eq_cons.mp (extractLsb'_append b₀ b₁)
  rw [swab16, hhigh, (List.cons_eq_cons.mp hlow).1]

/-- Both stubs get the value of the packet. -/
lemma le16ToCpu_wValue : le16ToCpu e (req.wValue e) = req.value := by
  cases e with
  | little => rfl
  | big => exact swab16_append _ _

/-- Only zero is swapped to zero. -/
lemma swab16_eq_zero_iff (x : BitVec 16) : swab16 x = 0 ↔ x = 0 := by
  constructor
  · intro h
    rw [← swab16_swab16 x, h]
    rfl
  · intro h
    rw [h]
    rfl

/-- No byte order makes a difference to a halt. -/
lemma wValue_eq_halt_iff : req.wValue e = USB_ENDPOINT_HALT ↔ req.value = USB_ENDPOINT_HALT := by
  rw [← le16ToCpu_wValue e req]
  cases e with
  | little => rfl
  | big => exact (swab16_eq_zero_iff _).symm

/-- A kind is not a recipient and a kind. -/
lemma not_isResetDeviceCmd : Libusb.isResetDeviceCmd e req = false := by
  have hne : ∀ rt : Byte, getRequestType rt ≠ USB_RT_PORT := by decide
  refine decide_eq_false fun h => ?_
  exact hne _ h.2.1

/-- The whole is a recipient just when nothing else is in it. -/
lemma eq_recipient_iff {rt recip : Byte} (hrecip : recip &&& ~~~USB_RECIP_MASK = 0) :
    rt = recip ↔ getRecipient rt = recip ∧ rt &&& ~~~USB_RECIP_MASK = 0 := by
  have hsplit : ∀ b : Byte, b = (b &&& USB_RECIP_MASK) ||| (b &&& ~~~USB_RECIP_MASK) := by decide
  unfold getRecipient
  constructor
  · intro h
    subst h
    refine ⟨?_, hrecip⟩
    conv_rhs => rw [hsplit rt, hrecip]
    exact (BitVec.or_zero).symm
  · rintro ⟨hlow, hhigh⟩
    rw [hsplit rt, hlow, hhigh]
    exact BitVec.or_zero

section Classify

variable {e req}

/-- The kernel takes for its own what the other stub does, when it is a standard request to the
device. -/
lemma isClearHaltCmd_iff (e' : Endian) : Kernel.isClearHaltCmd e req = true ↔
    Libusb.isClearHaltCmd e' req = true ∧ req.StandardOut := by
  unfold Kernel.isClearHaltCmd Libusb.isClearHaltCmd
  rw [decide_eq_true_iff, decide_eq_true_iff, wValue_eq_halt_iff, wValue_eq_halt_iff,
    @eq_recipient_iff req.bRequestType _ (by decide)]
  unfold Setup.StandardOut
  tauto

/-- The kernel asks for the request type too. -/
lemma isSetInterfaceCmd_iff : Kernel.isSetInterfaceCmd req = true ↔
    Libusb.isSetInterfaceCmd req = true ∧ req.StandardOut := by
  unfold Kernel.isSetInterfaceCmd Libusb.isSetInterfaceCmd
  rw [decide_eq_true_iff, decide_eq_true_iff, @eq_recipient_iff req.bRequestType _ (by decide)]
  unfold Setup.StandardOut
  tauto

/-- The kernel asks for the request type too. -/
lemma isSetConfigurationCmd_iff : Kernel.isSetConfigurationCmd req = true ↔
    Libusb.isSetConfigurationCmd req = true ∧ req.StandardOut := by
  unfold Kernel.isSetConfigurationCmd Libusb.isSetConfigurationCmd
  rw [decide_eq_true_iff, decide_eq_true_iff, @eq_recipient_iff req.bRequestType _ (by decide)]
  unfold Setup.StandardOut
  tauto

/-- The kernel takes a port reset for a reset of the device. -/
lemma isResetDeviceCmd_iff : Kernel.isResetDeviceCmd e req = true ↔ req.PortReset := by
  unfold Kernel.isResetDeviceCmd Setup.PortReset
  rw [decide_eq_true_iff, le16ToCpu_wValue]

/-- A port reset is no standard request. -/
lemma not_standardOut_of_portReset (h : req.PortReset) : ¬ req.StandardOut := by
  unfold Setup.StandardOut
  rw [h.2.1]
  decide

/-- A standard request to the device is the same to both. -/
lemma tweakSpecialRequests_of_standardOut (e' : Endian) (h : req.StandardOut) :
    Kernel.tweakSpecialRequests e req .control = Libusb.tweakSpecialRequests e' req .control := by
  have hreset : ¬ Kernel.isResetDeviceCmd e req = true := by
    intro hreset
    exact not_standardOut_of_portReset (isResetDeviceCmd_iff.mp hreset) h
  have hhalt := (@isClearHaltCmd_iff e req e').trans (and_iff_left h)
  have hinterface := (@isSetInterfaceCmd_iff req).trans (and_iff_left h)
  have hconfiguration := (@isSetConfigurationCmd_iff req).trans (and_iff_left h)
  unfold Kernel.tweakSpecialRequests Libusb.tweakSpecialRequests
  simp only [hhalt, hinterface, hconfiguration, hreset, not_isResetDeviceCmd]

/-- Of the other requests the kernel takes only the reset of a port. -/
lemma kernel_of_not_standardOut (h : ¬ req.StandardOut) [Decidable req.PortReset] :
    Kernel.tweakSpecialRequests e req .control =
      if req.PortReset then .resetDevice else .ordinary := by
  have hhalt : ¬ Kernel.isClearHaltCmd e req = true := fun hcmd =>
    h ((isClearHaltCmd_iff e).mp hcmd).2
  have hinterface : ¬ Kernel.isSetInterfaceCmd req = true := fun hcmd =>
    h (isSetInterfaceCmd_iff.mp hcmd).2
  have hconfiguration : ¬ Kernel.isSetConfigurationCmd req = true := fun hcmd =>
    h (isSetConfigurationCmd_iff.mp hcmd).2
  unfold Kernel.tweakSpecialRequests
  rw [if_neg (by decide), if_neg hhalt, if_neg hinterface, if_neg hconfiguration]
  exact if_congr isResetDeviceCmd_iff rfl rfl

/-- What looks like a request that is carried out is one to the port to user space. -/
lemma libusb_ordinary_iff (e' : Endian) :
    Libusb.tweakSpecialRequests e' req .control = .ordinary ↔ ¬ req.Looks := by
  have hlooks : req.Looks ↔ Libusb.isClearHaltCmd e' req = true ∨
      Libusb.isSetInterfaceCmd req = true ∨ Libusb.isSetConfigurationCmd req = true := by
    unfold Setup.Looks Libusb.isClearHaltCmd Libusb.isSetInterfaceCmd Libusb.isSetConfigurationCmd
    rw [decide_eq_true_iff, decide_eq_true_iff, decide_eq_true_iff, wValue_eq_halt_iff]
  rw [hlooks]
  unfold Libusb.tweakSpecialRequests
  rw [if_neg (by decide), not_isResetDeviceCmd]
  simp only [Bool.false_eq_true, if_false]
  split_ifs with hhalt hinterface hconfiguration
  · exact iff_of_false (by decide) fun h => h (.inl hhalt)
  · exact iff_of_false (by decide) fun h => h (.inr (.inl hinterface))
  · exact iff_of_false (by decide) fun h => h (.inr (.inr hconfiguration))
  · refine iff_of_true rfl ?_
    rintro (h | h | h)
    · exact hhalt h
    · exact hinterface h
    · exact hconfiguration h

/-- The libusb stub resets no device. -/
lemma libusb_ne_resetDevice (e' : Endian) :
    Libusb.tweakSpecialRequests e' req .control ≠ .resetDevice := by
  unfold Libusb.tweakSpecialRequests
  rw [if_neg (by decide), not_isResetDeviceCmd]
  simp only [Bool.false_eq_true, if_false]
  split_ifs <;> decide

end Classify

/-- The stubs take a control request for the same thing unless it looks like one that is carried out
and is not a standard one to the device, or is a reset of a port. -/
theorem stubs_classify_same_iff (e e' : Endian) (req : Setup) :
    Kernel.tweakSpecialRequests e req .control = Libusb.tweakSpecialRequests e' req .control ↔
      (req.Looks → req.StandardOut) ∧ ¬ req.PortReset := by
  classical
  by_cases hstandard : req.StandardOut
  · refine iff_of_true (tweakSpecialRequests_of_standardOut e' hstandard) ⟨fun _ => hstandard, ?_⟩
    intro hreset
    exact not_standardOut_of_portReset hreset hstandard
  · rw [kernel_of_not_standardOut hstandard]
    split
    · rename_i hreset
      exact iff_of_false (libusb_ne_resetDevice e').symm fun h => h.2 hreset
    · rename_i hreset
      rw [eq_comm, libusb_ordinary_iff]
      constructor
      · intro hlooks
        exact ⟨fun h => absurd h hlooks, hreset⟩
      · intro h hlooks
        exact hstandard (h.1 hlooks)

/-- The vendor request 9 to a device, without data. -/
def vendorNine : Setup := ![0x40, 9, 0, 0, 0, 0, 0, 0]

/-- A vendor request is submitted by the one stub, and taken for a choice of a configuration by the
other. -/
theorem not_stubs_classify_same : ¬ ∀ (e e' : Endian) (req : Setup),
    Kernel.tweakSpecialRequests e req .control = Libusb.tweakSpecialRequests e' req .control := by
  intro h
  have hsame := h .little .little vendorNine
  revert hsame
  decide

end Usbip.Link
