import Usbip.LibusbStub.Receive
import Usbip.Stub.Bounds

/-!
# The table of endpoints

The libusb stub makes a table of the endpoints of a configuration when it finds a device, and looks
the type of a transfer up in it.  The walk over interfaces, alternate settings and endpoints has an
index into the table that it never advances: every endpoint overwrites the first entry.
`transfer_type_iff` says for which endpoints the type is right all the same.
-/

namespace Usbip.LibusbStub

open Usbip.Core Usbip.Common Usbip.Stub

/-! ## Configurations -/

/-- Source: libusb, `struct libusb_endpoint_descriptor`. -/
structure LibusbEndpointDescriptor where
  bEndpointAddress : Byte
  bmAttributes : Byte
  deriving DecidableEq

/-- Source: libusb, `struct libusb_interface_descriptor`. -/
structure LibusbInterfaceDescriptor where
  endpoint : List LibusbEndpointDescriptor

/-- Source: libusb, `struct libusb_interface`. -/
structure LibusbInterface where
  altsetting : List LibusbInterfaceDescriptor

/-- Source: libusb, `struct libusb_config_descriptor`. -/
structure LibusbConfigDescriptor where
  interface : List LibusbInterface

/-- Source: libusb, `LIBUSB_ENDPOINT_ADDRESS_MASK` and `LIBUSB_ENDPOINT_DIR_MASK`. -/
def libusbEndpointAddressMask : Byte := 0x0f

def libusbEndpointDirMask : Byte := 0x80

/-- `bmAttributes & LIBUSB_TRANSFER_TYPE_MASK`, by the values of `LIBUSB_TRANSFER_TYPE_CONTROL` and
the others, which are the kernel's `USB_ENDPOINT_XFER_CONTROL` and the others. -/
def transferType (bmAttributes : Byte) : PipeType :=
  match bmAttributes.getLsbD 1, bmAttributes.getLsbD 0 with
  | false, false => .control
  | false, true => .isochronous
  | true, false => .bulk
  | true, true => .interrupt

/-- Source: `stub_dev.c`, `fill_stub_endpoint`. -/
def fillStubEndpoint (desc : LibusbEndpointDescriptor) : StubEndpoint where
  nr := desc.bEndpointAddress &&& libusbEndpointAddressMask
  dir := desc.bEndpointAddress &&& libusbEndpointDirMask
  type := transferType desc.bmAttributes

/-- Source: `stub_dev.c`, `fill_stub_endpoints`. -/
def fillStubEndpoints (ep : List StubEndpoint) (config : LibusbConfigDescriptor) :
    List StubEndpoint :=
  let num := 0
  config.interface.foldl
    (fun ep intf => intf.altsetting.foldl
      (fun ep idesc => idesc.endpoint.foldl
        -- nothing is added to `num`
        (fun ep desc => ep.set num (fillStubEndpoint desc)) ep) ep) ep

/-- Source: `stub_dev.c`, `count_endpoints`. -/
def countEndpoints (config : LibusbConfigDescriptor) : Nat :=
  config.interface.foldl
    (fun num intf => intf.altsetting.foldl (fun num idesc => num + idesc.endpoint.length) num) 0

/-- The table of a device, which is allocated with `calloc`, filled, and copied for the connection.
Source: `stub_dev.c`, `exported_device_new` and `stub_device_new`. -/
def stubEps (config : LibusbConfigDescriptor) : List StubEndpoint :=
  fillStubEndpoints (List.replicate (countEndpoints config) ⟨0, 0, .control⟩) config

/-! ## What the table is for -/

/-- The endpoints of a configuration, in the order of its walk. -/
def LibusbConfigDescriptor.endpoints (config : LibusbConfigDescriptor) :
    List LibusbEndpointDescriptor :=
  config.interface.flatMap fun intf => intf.altsetting.flatMap fun idesc => idesc.endpoint

section Descriptor

variable (d : LibusbEndpointDescriptor)

def LibusbEndpointDescriptor.number : BitVec 4 := d.bEndpointAddress.setWidth 4

def LibusbEndpointDescriptor.direction : BitVec 32 :=
  if d.bEndpointAddress.getLsbD 7 then dirIn else dirOut

def LibusbEndpointDescriptor.type : PipeType := transferType d.bmAttributes

/-- The request is for the endpoint. -/
def LibusbEndpointDescriptor.Addressed (pdu : Header) : Prop :=
  pdu.base.ep = d.number.setWidth 32 ∧ pdu.base.direction = d.direction

/-- Requests for the endpoint get the type in its descriptor; this is the type that the kernel's
stub finds, when the device has the endpoint. -/
structure TypeUsed (config : LibusbConfigDescriptor) : Prop where
  own : ∀ pdu, d.Addressed pdu →
    stubGetTransferType (stubEps config) (epNumber pdu) = some d.type
  kernel : ∀ (pdu : Header) (udev : UsbDevice), d.Addressed pdu →
    udev.endpoint pdu.base.ep pdu.base.direction = some ⟨d.bEndpointAddress, d.type⟩ →
      ∃ pipe, getPipe udev pdu.base.ep pdu.base.direction = .ok pipe ∧
        stubGetTransferType (stubEps config) (epNumber pdu) = some (pipeOfBits pipe).type

end Descriptor

/-! ## What the walk leaves -/

/-- Of all that is written to the first place of a table, the last is left. -/
lemma foldl_set_zero {α β : Type} (f : α → β) (l : List α) (t : List β) :
    l.foldl (fun t a => t.set 0 (f a)) t = (l.getLast?).elim t fun a => t.set 0 (f a) := by
  induction l using List.reverseRecOn with
  | nil => rfl
  | append_singleton l a ih =>
      rw [List.foldl_concat, ih, List.getLast?_concat]
      cases l.getLast? with
      | none => rfl
      | some b => exact List.set_set ..

/-- Only the last descriptor of the configuration is left, in the first place. -/
lemma fillStubEndpoints_eq (ep : List StubEndpoint) (config : LibusbConfigDescriptor) :
    fillStubEndpoints ep config =
      (config.endpoints.getLast?).elim ep fun desc => ep.set 0 (fillStubEndpoint desc) := by
  rw [← foldl_set_zero, LibusbConfigDescriptor.endpoints, List.foldl_flatMap]
  simp only [List.foldl_flatMap]
  rfl

/-- A running sum of lengths is the length of the lists behind one another. -/
lemma foldl_add_length {α β : Type} (f : α → List β) (l : List α) (n : Nat) :
    l.foldl (fun n a => n + (f a).length) n = n + (l.flatMap f).length := by
  induction l generalizing n with
  | nil => rfl
  | cons a l ih =>
      rw [List.foldl_cons, ih, List.flatMap_cons, List.length_append, Nat.add_assoc]

/-- The count is that of all the endpoints of the configuration. -/
lemma countEndpoints_eq (config : LibusbConfigDescriptor) :
    countEndpoints config = config.endpoints.length := by
  unfold countEndpoints LibusbConfigDescriptor.endpoints
  simp only [foldl_add_length fun idesc : LibusbInterfaceDescriptor => idesc.endpoint]
  rw [foldl_add_length, Nat.zero_add]

/-- The table has the last endpoint of the walk, and empty entries. -/
lemma stubEps_eq (config : LibusbConfigDescriptor) :
    stubEps config = (config.endpoints.getLast?).elim [] fun desc =>
      fillStubEndpoint desc :: List.replicate (config.endpoints.length - 1) ⟨0, 0, .control⟩ := by
  unfold stubEps
  rw [fillStubEndpoints_eq, countEndpoints_eq]
  cases hlast : config.endpoints.getLast? with
  | none =>
      rw [List.getLast?_eq_none_iff.mp hlast]
      rfl
  | some desc =>
      have hpos : config.endpoints.length = config.endpoints.length - 1 + 1 := by
        have hmem := List.length_pos_of_mem (List.mem_of_getLast? hlast)
        omega
      dsimp only [Option.elim]
      conv_lhs => rw [hpos, List.replicate_succ, List.set_cons_zero]

/-! ## Looking it up -/

section Lookup

variable {config : LibusbConfigDescriptor} {d : LibusbEndpointDescriptor} {pdu : Header}

/-- The number that is looked up is the one that the table would have. -/
lemma epNumber_of_addressed (h : d.Addressed pdu) :
    epNumber pdu = d.bEndpointAddress &&& libusbEndpointAddressMask := by
  have hmask : ∀ a : Byte, ((a.setWidth 4).setWidth 32).setWidth 8 = a &&& 0x0f := by decide
  rw [epNumber, h.1]
  exact hmask _

/-- The masked addresses agree when the endpoint numbers do. -/
lemma number_eq_iff (a b : LibusbEndpointDescriptor) :
    a.bEndpointAddress &&& libusbEndpointAddressMask =
      b.bEndpointAddress &&& libusbEndpointAddressMask ↔ a.number = b.number := by
  have hmask : ∀ a : Byte, a &&& 0x0f = (a.setWidth 4).setWidth 8 := by decide
  have hback : ∀ a : BitVec 4, (a.setWidth 8).setWidth 4 = a := by decide
  unfold libusbEndpointAddressMask LibusbEndpointDescriptor.number
  rw [hmask, hmask]
  constructor
  · intro h
    rw [← hback (a.bEndpointAddress.setWidth 4), h, hback]
  · intro h
    rw [h]

/-- The masked address is zero for endpoint zero alone. -/
lemma number_eq_zero_iff (a : LibusbEndpointDescriptor) :
    a.bEndpointAddress &&& libusbEndpointAddressMask = 0 ↔ a.number = 0 := by
  have hmask : ∀ a : Byte, a &&& 0x0f = 0 ↔ a.setWidth 4 = 0 := by decide
  exact hmask _

/-- Only the last endpoint of the walk is found. -/
lemma stubGetTransferType_stubEps (h : d.Addressed pdu) (hne : d.number ≠ 0) :
    stubGetTransferType (stubEps config) (epNumber pdu) =
      (config.endpoints.getLast?).bind fun last =>
        if last.number = d.number then some last.type else none := by
  have hep := epNumber_of_addressed h
  have hmask : ∀ a : Byte, a &&& 0x0f &&& 0x0f = a &&& 0x0f := by decide
  have hempty : ∀ n, (List.replicate n (⟨0, 0, .control⟩ : StubEndpoint)).find?
      (fun epp => epp.nr = d.bEndpointAddress &&& libusbEndpointAddressMask) = none := by
    intro n
    rw [List.find?_eq_none]
    intro epp hepp
    rw [List.eq_of_mem_replicate hepp]
    intro hzero
    exact hne ((number_eq_zero_iff d).mp (of_decide_eq_true hzero).symm)
  unfold stubGetTransferType getEndpoint
  rw [hep, if_neg (mt (number_eq_zero_iff d).mp hne), stubEps_eq]
  have hnumber : d.bEndpointAddress &&& libusbEndpointAddressMask &&& usbEndpointNumberMask =
      d.bEndpointAddress &&& libusbEndpointAddressMask := hmask _
  rw [hnumber]
  cases config.endpoints.getLast? with
  | none => rfl
  | some last =>
      dsimp only [Option.elim, Option.bind]
      by_cases heq : last.number = d.number
      · rw [if_pos heq, List.find?_cons_of_pos]
        · rfl
        · exact decide_eq_true ((number_eq_iff last d).mpr heq)
      · rw [if_neg heq, List.find?_cons_of_neg, hempty]
        · rfl
        · exact fun h => heq ((number_eq_iff last d).mp (of_decide_eq_true h))

/-- The type that is used is the one in the descriptor exactly for control endpoint 0, and for the
endpoints that have the number and the type of the last one of the walk. -/
theorem transfer_type_iff (config : LibusbConfigDescriptor) (d : LibusbEndpointDescriptor) :
    TypeUsed d config ↔
      if d.number = 0 then d.type = .control
      else ∃ last, config.endpoints.getLast? = some last ∧ last.number = d.number ∧
        last.type = d.type := by
  have hkernel : (∀ pdu, d.Addressed pdu →
      stubGetTransferType (stubEps config) (epNumber pdu) = some d.type) → TypeUsed d config := by
    intro hown
    refine ⟨hown, fun pdu udev haddr hdev => ⟨_, getPipe_eq_ok hdev, ?_⟩⟩
    rw [hown pdu haddr, haddr.1, pipeOfBits_usbPipe]
  have hex : ∃ pdu, d.Addressed pdu :=
    ⟨⟨⟨cmdSubmit, 1, 0, d.direction, d.number.setWidth 32⟩, ⟨0, 0, 0, 0, 0, []⟩⟩, rfl, rfl⟩
  split
  · rename_i hzero
    have htype : ∀ pdu, d.Addressed pdu →
        stubGetTransferType (stubEps config) (epNumber pdu) = some .control := by
      intro pdu haddr
      rw [stubGetTransferType, epNumber_of_addressed haddr,
        if_pos ((number_eq_zero_iff d).mpr hzero)]
    constructor
    · intro hused
      obtain ⟨pdu, haddr⟩ := hex
      have hown := hused.own pdu haddr
      rw [htype pdu haddr] at hown
      exact (Option.some.inj hown).symm
    · intro hcontrol
      apply hkernel
      intro pdu haddr
      rw [htype pdu haddr, hcontrol]
  · rename_i hne
    constructor
    · intro hused
      obtain ⟨pdu, haddr⟩ := hex
      have hown := hused.own pdu haddr
      rw [stubGetTransferType_stubEps haddr hne] at hown
      obtain ⟨last, hlast, hfound⟩ := Option.bind_eq_some_iff.mp hown
      split at hfound
      · rename_i hnumber
        exact ⟨last, hlast, hnumber, Option.some.inj hfound⟩
      · cases hfound
    · rintro ⟨last, hlast, hnumber, htype⟩
      apply hkernel
      intro pdu haddr
      rw [stubGetTransferType_stubEps haddr hne, hlast, Option.bind_some, if_pos hnumber, htype]

end Lookup

/-- A configuration with a bulk endpoint 1 for input and a bulk endpoint 2 for output, and nothing
else. -/
def twoBulk : LibusbConfigDescriptor :=
  ⟨[⟨[⟨[⟨0x81, 2⟩, ⟨0x02, 2⟩]⟩]⟩]⟩

/-- Of two endpoints the first is not found. -/
theorem not_transfer_type : ¬ ∀ (config : LibusbConfigDescriptor),
    ∀ d ∈ config.endpoints, TypeUsed d config := by
  intro h
  have hown := (h twoBulk ⟨0x81, 2⟩ (by decide)).own
    ⟨⟨cmdSubmit, 1, 0, dirIn, 1⟩, ⟨0, 0, 0, 0, 0, []⟩⟩ ⟨by decide, by decide⟩
  revert hown
  decide

end Usbip.LibusbStub
