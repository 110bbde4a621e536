import Usbip.LibusbStub.Payload
import Usbip.Link.Replies

/-!
# What the libusb stub writes for a completed transfer

`stub_send_ret_submit` of the port to user space.  A `libusb_transfer` has no offsets: its packets
lie in the buffer one directly behind the other, and the stub adds their lengths up, once for the
data and once for the descriptors.  So it writes what the kernel's stub would for a URB of this
layout (`stubSendRetSubmit_eq`).
-/

namespace Usbip.LibusbStub

open Usbip.Core Usbip.Common

/-! ## Sending -/

/-- Source: `stub_common.c`, `trxstat2error`. -/
def trxstat2error : TransferStatus → BitVec 32
  | .completed => 0
  | .cancelled => -ECONNRESET
  | .error | .stall | .timedOut | .overflow => -EPIPE
  | .noDevice => -ESHUTDOWN

/-- A descriptor as it is sent.
Source: `stub_common.c`, `usbip_pack_iso` with `pack` set. -/
def packIso (uiso : LibusbIsoPacketDescriptor) (offset : BitVec 32) : IsoPacketDescriptor :=
  ⟨offset, uiso.length, uiso.actualLength, trxstat2error uiso.status⟩

/-- The loop of `usbip_alloc_iso_desc_pdu`, from `offset` on. -/
def packIsoLoop : BitVec 32 → List LibusbIsoPacketDescriptor → List IsoPacketDescriptor
  | _, [] => []
  | offset, d :: ds => packIso d offset :: packIsoLoop (offset + d.length) ds

/-- The packets that a loop over `num_iso_packets` visits. -/
def LibusbTransfer.packets (trx : LibusbTransfer) : List LibusbIsoPacketDescriptor :=
  trx.isoPacketDesc.take trx.numIsoPackets.toInt.toNat

/-- Source: `stub_common.c`, `usbip_alloc_iso_desc_pdu`. -/
def usbipAllocIsoDescPdu (malloc : Malloc) (trx : LibusbTransfer) : Option (List Byte) :=
  if malloc.ok .isoDesc (sizeT (trx.numIsoPackets.toInt * 16)) then
    some ((packIsoLoop 0 trx.packets).flatMap IsoPacketDescriptor.wire)
  else none

/-- Source: libusb stub's `stub_tx.c`, `fixup_actual_length`. -/
def fixupActualLength (trx : LibusbTransfer) : LibusbTransfer :=
  { trx with actualLength := (trx.packets.map LibusbIsoPacketDescriptor.actualLength).sum }

/-- The data of the packets, from `offset` on. -/
def packetsIov (beyond : Nat → Byte) (buf : List Byte) :
    BitVec 32 → List LibusbIsoPacketDescriptor → List Byte
  | _, [] => []
  | offset, d :: ds =>
      iovec beyond buf offset.toNat d.actualLength.toNat ++
        packetsIov beyond buf (offset + d.length) ds

/-- What follows the header, or `none` with an event; `isIn` is whether `priv->dir` is
`USBIP_DIR_IN`. -/
def retSubmitPayload (malloc : Malloc) (beyond : Nat → Byte) (isIn : Bool) (trx : LibusbTransfer) :
    Option (List Byte) :=
  let iovnum := if trx.type = .isochronous then 2 + trx.numIsoPackets else 2
  if ¬ malloc.ok .iov (sizeT (iovnum.toInt * 16)) then none
  else if trx.type ≠ .isochronous then
    some <|
      if isIn ∧ 0 < trx.actualLength.toInt then
        iovec beyond trx.buffer (xbuffOffset trx.type).toNat trx.actualLength.toNat
      else []
  else if isIn ∧ (trx.packets.map fun d => d.actualLength.toNat).sum ≠
      sizeT trx.actualLength.toInt then none
  else
    let data := if isIn then packetsIov beyond trx.buffer 0 trx.packets else []
    (usbipAllocIsoDescPdu malloc trx).map (data ++ ·)

/-- Source: libusb stub's `stub_tx.c`, `setup_ret_submit_pdu`. -/
def setupRetSubmitPdu (seqnum : Seqnum) (status : TransferStatus) (trx : LibusbTransfer) :
    Header where
  base := { command := retSubmit, seqnum }
  u := { w₀ := trxstat2error status, w₁ := trx.actualLength, w₃ := trx.numIsoPackets }

/-- What is written for a completed transfer, or `none` with an event.  The header is converted as
in the kernel (`bytes_usbipHeaderCorrectEndian`).
Source: libusb stub's `stub_tx.c`, `stub_send_ret_submit`. -/
def stubSendRetSubmit (malloc : Malloc) (beyond : Nat → Byte) (e : Endian) (seqnum : Seqnum)
    (isIn : Bool) (status : TransferStatus) (trx : LibusbTransfer) : Option (List Byte) :=
  let trx := if trx.type = .isochronous then fixupActualLength trx else trx
  (retSubmitPayload malloc beyond isIn trx).map
    ((correctEndianSend e (setupRetSubmitPdu seqnum status trx)).bytes e ++ ·)

/-! ## The packets -/

/-- The places that packets may fill. -/
def rooms (iso : List IsoPacketDescriptor) : List Extent :=
  iso.map fun d => ⟨d.offset.toNat, d.length.toNat⟩

/-- The rooms of the first packet and of the others. -/
@[simp] lemma rooms_cons (d : IsoPacketDescriptor) (iso : List IsoPacketDescriptor) :
    rooms (d :: iso) = ⟨d.offset.toNat, d.length.toNat⟩ :: rooms iso := rfl

/-- The places of the packets' data in the buffer of a transfer, from `offset` on.
Source: libusb, `libusb_get_iso_packet_buffer`. -/
def isoPlaces : Nat → List LibusbIsoPacketDescriptor → List Extent
  | _, [] => []
  | offset, d :: ds =>
      ⟨offset, d.actualLength.toNat⟩ :: isoPlaces (offset + d.length.toNat) ds

/-- Where the packets may be is said by their offsets and lengths. -/
lemma rooms_eq_zipWith (iso : List IsoPacketDescriptor) :
    rooms iso = List.zipWith (fun o l => ⟨o.toNat, l.toNat⟩) (iso.map IsoPacketDescriptor.offset)
      (iso.map IsoPacketDescriptor.length) := by
  rw [List.zipWith_map, List.zipWith_self]
  rfl

section Packets

variable {beyond : Nat → Byte} {buf : List Byte} {offset : BitVec 32}
  {ds : List LibusbIsoPacketDescriptor}

/-- One descriptor for each packet. -/
@[simp] lemma length_packIsoLoop : (packIsoLoop offset ds).length = ds.length := by
  induction ds generalizing offset with
  | nil => rfl
  | cons d ds ih => exact congrArg Nat.succ ih

/-- The descriptors keep the lengths. -/
lemma map_length_packIsoLoop :
    (packIsoLoop offset ds).map IsoPacketDescriptor.length =
      ds.map LibusbIsoPacketDescriptor.length := by
  induction ds generalizing offset with
  | nil => rfl
  | cons d ds ih => exact congrArg (d.length :: ·) ih

/-- The descriptors keep the actual lengths. -/
lemma map_actualLength_packIsoLoop :
    (packIsoLoop offset ds).map IsoPacketDescriptor.actualLength =
      ds.map LibusbIsoPacketDescriptor.actualLength := by
  induction ds generalizing offset with
  | nil => rfl
  | cons d ds ih => exact congrArg (d.actualLength :: ·) ih

/-- No packet is said to have received more than it has room for. -/
lemma actualLength_le_packIsoLoop (h : ∀ d ∈ ds, d.actualLength ≤ d.length) :
    ∀ d ∈ packIsoLoop offset ds, d.actualLength ≤ d.length := by
  induction ds generalizing offset with
  | nil => exact fun d hd => absurd hd List.not_mem_nil
  | cons d ds ih =>
      intro d' hd'
      rcases List.mem_cons.mp hd' with rfl | hd'
      · exact h d List.mem_cons_self
      · exact ih (fun x hx => h x (List.mem_cons_of_mem _ hx)) d' hd'

/-- Data and descriptors agree on where the packets are. -/
lemma packetsIov_eq : packetsIov beyond buf offset ds =
    (extents (packIsoLoop offset ds)).flatMap fun p => iovec beyond buf p.offset p.length := by
  induction ds generalizing offset with
  | nil => rfl
  | cons d ds ih =>
      rw [packetsIov, packIsoLoop, extents_cons, List.flatMap_cons, ih]
      rfl

/-- There are no gaps between the packets, as long as the lengths do not wrap around. -/
lemma contiguous_packIsoLoop
    (h : offset.toNat + volume (rooms (packIsoLoop offset ds)) < 2 ^ 32) :
    Contiguous offset.toNat (rooms (packIsoLoop offset ds)) := by
  induction ds generalizing offset with
  | nil => trivial
  | cons d ds ih =>
      rw [packIsoLoop, rooms_cons, volume_cons] at h
      dsimp only [packIso] at h
      have hadd : (offset + d.length).toNat = offset.toNat + d.length.toNat := by
        rw [BitVec.toNat_add]
        exact Nat.mod_eq_of_lt (by omega)
      have hrest := @ih (offset + d.length) (by omega)
      rw [hadd] at hrest
      exact ⟨rfl, hrest⟩

/-- The stub looks for the packets where libusb has them. -/
lemma isoPlaces_eq (h : offset.toNat + volume (rooms (packIsoLoop offset ds)) < 2 ^ 32) :
    isoPlaces offset.toNat ds = extents (packIsoLoop offset ds) := by
  induction ds generalizing offset with
  | nil => rfl
  | cons d ds ih =>
      rw [packIsoLoop, rooms_cons, volume_cons] at h
      dsimp only [packIso] at h
      have hadd : (offset + d.length).toNat = offset.toNat + d.length.toNat := by
        rw [BitVec.toNat_add]
        exact Nat.mod_eq_of_lt (by omega)
      have hrest := @ih (offset + d.length) (by omega)
      rw [hadd] at hrest
      rw [isoPlaces, hrest]
      rfl

/-- What the packets received, added up as the `int` that `fixup_actual_length` adds them up in. -/
lemma sum_actualLength :
    (ds.map LibusbIsoPacketDescriptor.actualLength).sum =
      BitVec.ofNat 32 (volume (extents (packIsoLoop offset ds))) := by
  rw [← @map_actualLength_packIsoLoop offset, ← totalLength_eq]
  rfl

end Packets

/-! ## What the kernel's stub would write -/

/-- The URB of a completed transfer, with the packets where libusb has them. -/
def LibusbTransfer.toUrb (trx : LibusbTransfer) (isIn : Bool) (status : TransferStatus) : Urb where
  pipe := ⟨trx.type, isIn, 0, 0⟩
  status := trxstat2error status
  transferBuffer := trx.buffer
  transferBufferLength := trx.length
  actualLength := (fixupActualLength trx).actualLength
  numberOfPackets := trx.numIsoPackets
  isoFrameDesc := packIsoLoop 0 trx.packets

/-- A reply for an isochronous transfer is one for its URB. -/
theorem stubSendRetSubmit_eq {malloc : Malloc} {beyond : Nat → Byte} {e : Endian} {n : Seqnum}
    {isIn : Bool} {status : TransferStatus} {trx : LibusbTransfer} {b : List Byte}
    (htype : trx.type = .isochronous)
    (hsend : stubSendRetSubmit malloc beyond e n isIn status trx = some b) :
    b = (correctEndianSend e (Common.setupRetSubmitPdu n (trx.toUrb isIn status))).bytes e ++
      (Link.dataOf beyond true (trx.toUrb isIn status) ++
        (Link.isoOf true (trx.toUrb isIn status)).flatMap IsoPacketDescriptor.wire) := by
  unfold stubSendRetSubmit at hsend
  rw [if_pos htype] at hsend
  obtain ⟨payload, hpayload, rfl⟩ := Option.map_eq_some_iff.mp hsend
  have htype' : (fixupActualLength trx).type = .isochronous := htype
  unfold retSubmitPayload at hpayload
  obtain ⟨-, hpayload⟩ := Option.ite_none_left_eq_some.mp hpayload
  rw [if_neg (not_not_intro htype')] at hpayload
  obtain ⟨-, hpayload⟩ := Option.ite_none_left_eq_some.mp hpayload
  obtain ⟨desc, hdesc, rfl⟩ := Option.map_eq_some_iff.mp hpayload
  obtain ⟨-, hwire⟩ := Option.ite_none_right_eq_some.mp hdesc
  have hdata : (if isIn = true then packetsIov beyond (fixupActualLength trx).buffer 0
      (fixupActualLength trx).packets else []) =
      Link.dataOf beyond true (trx.toUrb isIn status) := by
    show _ = if ¬ isIn = true then [] else _
    by_cases hin : isIn = true
    · rw [if_pos hin, if_neg (not_not_intro hin), packetsIov_eq]
      rfl
    · rw [if_neg hin, if_pos hin]
  rw [hdata, ← Option.some.inj hwire]
  rfl

end Usbip.LibusbStub
