import Usbip.Common.Padding

/-!
# What is written to a socket, and what is read from it

What the drivers write after a header, and what the functions that read it take from the bytes a
socket holds: `recvHeader_of_wire` for a header, `usbipRecvXbuff_of_data` for a transfer buffer,
`usbipRecvIso_of_wire` for the descriptors of the packets.
-/

namespace Usbip.Common

open Usbip.Core

/-! ## Allocation -/

/-- What is allocated for a message, each of them once at most. -/
inductive Allocation
  /-- The transfer buffer of the URB. -/
  | buffer
  /-- The copy of the setup packet. -/
  | setup
  /-- `buff` of `usbip_recv_iso`. -/
  | recvIso
  /-- The iovec of a reply. -/
  | iov
  /-- The descriptors of `usbip_alloc_iso_desc_pdu`. -/
  | isoDesc
  deriving DecidableEq

/-- Which allocations, of which sizes, `kzalloc` serves at the moment, none of them larger than
`KMALLOC_MAX_SIZE`.  Of two allocations of the same size one may be served and the other not. -/
structure Kzalloc where
  ok : Allocation → Nat → Bool
  lt_of_ok : ∀ a n, ok a n = true → n < 2 ^ 31

/-- Every size that can be served is. -/
def Kzalloc.all : Kzalloc where
  ok _ n := n < 2 ^ 31
  lt_of_ok _ _ := of_decide_eq_true

/-- The counts of packets that `usb_alloc_urb` serves at the moment, and how many descriptors the URB
then has room for.
Source: `<linux/usb.h>`, `usb_alloc_urb`. -/
structure UsbAllocUrb where
  room : Int → Option Nat
  le_of_room : ∀ n r, room n = some r → n ≤ r
  lt_of_room : ∀ n r, room n = some r → r * 16 < 2 ^ 31

/-- Every count that can be served is. -/
def UsbAllocUrb.all : UsbAllocUrb where
  room n := if 0 ≤ n ∧ n < 2 ^ 27 then some n.toNat else none
  le_of_room n r h := by
    obtain ⟨hn, hr⟩ := Option.ite_none_right_eq_some.mp h
    obtain rfl := Option.some.inj hr
    omega
  lt_of_room n r h := by
    obtain ⟨hn, hr⟩ := Option.ite_none_right_eq_some.mp h
    obtain rfl := Option.some.inj hr
    omega

/-- An `int` as a `size_t`. -/
def sizeT (n : Int) : Nat := (n % 2 ^ 64).toNat

/-- A length below 2^31 survives the conversion to `size_t`. -/
lemma sizeT_natCast {n : Nat} (h : n < 2 ^ 31) : sizeT n = n := by
  unfold sizeT
  omega

/-- The descriptors of a URB as they are sent, or `none` when they cannot be allocated.
Source: `usbip_common.c`, `usbip_alloc_iso_desc_pdu`. -/
def usbipAllocIsoDescPdu (kz : Kzalloc) (urb : Urb) : Option (List Byte) :=
  let np := urb.numberOfPackets.toInt
  if kz.ok .isoDesc (sizeT (np * 16)) then
    some ((urb.isoFrameDesc.take np.toNat).flatMap IsoPacketDescriptor.wire)
  else none

/-- A negative `int` cannot be allocated. -/
lemma Kzalloc.nonneg_of_ok {kz : Kzalloc} {a : Allocation} {n : BitVec 32}
    (h : kz.ok a (sizeT n.toInt) = true) : 0 ≤ n.toInt := by
  have hlt := kz.lt_of_ok _ _ h
  have hmin : -2 ^ 31 ≤ n.toInt := BitVec.le_toInt n
  unfold sizeT at hlt
  omega

/-- Only what is not negative and not too large can be allocated. -/
lemma Kzalloc.toInt_of_ok {kz : Kzalloc} {a : Allocation} {np : BitVec 32}
    (h : kz.ok a (sizeT (np.toInt * 16)) = true) :
    np.toInt = np.toNat ∧ np.toNat * 16 < 2 ^ 31 := by
  have hlt := kz.lt_of_ok _ _ h
  have hmin : -2 ^ 31 ≤ np.toInt := BitVec.le_toInt np
  unfold sizeT at hlt
  rw [BitVec.toInt_eq_toNat_cond] at hlt hmin ⊢
  split at hlt <;> omega

/-! ## Sending -/

/-- The bytes of an entry of an iovec.  Those that are not in the buffer are what the memory holds
behind it. -/
def iovec (beyond : Nat → Byte) (buf : List Byte) (offset length : Nat) : List Byte :=
  (List.range length).map fun i => buf.getD (offset + i) (beyond (offset + i))

/-- A piece to be sent is as long as it says, whatever it runs over. -/
@[simp] lemma length_iovec (beyond : Nat → Byte) (buf : List Byte) (offset length : Nat) :
    (iovec beyond buf offset length).length = length := by
  simp [iovec]

/-- A piece inside the buffer holds bytes of the buffer only. -/
lemma iovec_eq_slice {beyond : Nat → Byte} {buf : List Byte} {offset length : Nat}
    (h : offset + length ≤ buf.length) : iovec beyond buf offset length = slice offset length buf := by
  apply List.ext_getElem
  · rw [length_iovec, length_slice h]
  · intro i hi hi'
    rw [length_iovec] at hi
    simp [iovec, slice, List.getElem?_eq_getElem (show offset + i < buf.length by omega)]

/-- What follows the header of a RET_SUBMIT, or `none` with an event; `isoc` is how the driver
tells an isochronous URB.
Source: `stub_tx.c`, `stub_send_ret_submit`, and `vudc_tx.c`, `v_send_ret_submit`. -/
def retSubmitPayload (kz : Kzalloc) (beyond : Nat → Byte) (isoc : Bool) (urb : Urb) :
    Option (List Byte) :=
  let iovnum := if isoc then 2 + urb.numberOfPackets else 2
  let packets := extents (urb.isoFrameDesc.take urb.numberOfPackets.toInt.toNat)
  if ¬ kz.ok .iov (sizeT iovnum.toInt * 16) then none
  else if urb.pipe.isIn ∧ isoc ∧ volume packets ≠ urb.actualLength.toNat then none
  else
    let data :=
      if ¬ urb.pipe.isIn then []
      -- the padding between the packets is not sent
      else if isoc then packets.flatMap fun p => iovec beyond urb.transferBuffer p.offset p.length
      else iovec beyond urb.transferBuffer 0 urb.actualLength.toNat
    if isoc then (usbipAllocIsoDescPdu kz urb).map (data ++ ·) else some data

/-- Source: `stub_tx.c` and `vudc_tx.c`, `setup_ret_submit_pdu`. -/
def setupRetSubmitPdu (seqnum : Seqnum) (urb : Urb) : Header where
  base := { command := retSubmit, seqnum }
  u := packRetSubmit urb {}

/-- Source: `stub_tx.c` and `vudc_tx.c`, `setup_ret_unlink_pdu`. -/
def setupRetUnlinkPdu (seqnum : Seqnum) (status : BitVec 32) : Header where
  base := { command := retUnlink, seqnum }
  u := { w₀ := status }

/-- What is written for a completed URB, or `none` with an event.
Source: `stub_tx.c`, `stub_send_ret_submit`. -/
def stubSendRetSubmit (kz : Kzalloc) (beyond : Nat → Byte) (e : Endian) (seqnum : Seqnum)
    (urb : Urb) : Option (List Byte) :=
  (retSubmitPayload kz beyond (urb.pipe.type = .isochronous) urb).map
    ((correctEndianSend e (setupRetSubmitPdu seqnum urb)).bytes e ++ ·)

/-- What is written for a completed URB, or `none` with an event; `type` is `urb_p->type`.
Source: `vudc_tx.c`, `v_send_ret_submit`. -/
def vSendRetSubmit (kz : Kzalloc) (beyond : Nat → Byte) (e : Endian) (seqnum : Seqnum)
    (type : PipeType) (urb : Urb) : Option (List Byte) :=
  (retSubmitPayload kz beyond (type = .isochronous) urb).map
    ((correctEndianSend e (setupRetSubmitPdu seqnum urb)).bytes e ++ ·)

/-- Source: `stub_tx.c`, `stub_send_ret_unlink`, and `vudc_tx.c`, `v_send_ret_unlink`. -/
def sendRetUnlink (e : Endian) (seqnum : Seqnum) (status : BitVec 32) : List Byte :=
  (correctEndianSend e (setupRetUnlinkPdu seqnum status)).bytes e

/-- A RET_SUBMIT has no stray bytes in its header. -/
lemma clean_setupRetSubmitPdu (seqnum : Seqnum) (urb : Urb) :
    (setupRetSubmitPdu seqnum urb).Clean :=
  ⟨rfl, Or.inl (Or.inr rfl)⟩

/-- A RET_UNLINK has no stray bytes in its header. -/
lemma clean_setupRetUnlinkPdu (seqnum : Seqnum) (status : BitVec 32) :
    (setupRetUnlinkPdu seqnum status).Clean :=
  ⟨rfl, Or.inr ⟨Or.inr rfl, rfl, rfl, rfl, rfl⟩⟩

/-! ## Receiving -/

/-- The receipt of a header, which fails unless all of it arrives.
Source: `stub_rx.c`, `stub_rx_pdu`, and the three functions like it. -/
def recvHeader (e : Endian) (io : List Recvmsg) : Option (Header × List Recvmsg) :=
  let r := usbipRecv 48 io
  if r.ret = 48 then some (correctEndianRecv e (Header.ofBytes e r.buf), r.io) else none

/-- A header is read as it was sent, whatever the byte orders of the two hosts. -/
theorem recvHeader_of_wire (e e' : Endian) {h : Header} (hclean : h.Clean) {io : List Recvmsg}
    {rest : List Byte} (hav : available io = (correctEndianSend e' h).bytes e' ++ rest) :
    ∃ io', recvHeader e io = some (h, io') ∧ available io' = rest := by
  rw [Header.bytes_correctEndianSend e' hclean] at hav
  have hlen := hclean.length_wire
  have hle : 48 ≤ (available io).length := by
    rw [hav, List.length_append]
    omega
  obtain ⟨hret, hbuf, hio⟩ := usbipRecv_of_le (by decide) hle
  have htake : (available io).take 48 = h.wire := by rw [hav, List.take_left' hlen]
  refine ⟨(usbipRecv 48 io).io, ?_, ?_⟩
  · unfold recvHeader
    dsimp only
    have hret48 : (usbipRecv 48 io).ret = 48 := hret
    rw [if_pos hret48, hbuf, htake, correctEndianRecv_ofBytes_wire e hclean]
  · rw [hio, hav, List.drop_left' hlen]

/-- The size that `usbip_recv_xbuff` goes by. -/
def xbuffSize (side : Side) (urb : Urb) : BitVec 32 :=
  if side = .vhci then urb.actualLength else urb.transferBufferLength

/-- How many bytes `usbip_recv_xbuff` takes from a socket. -/
def xbuffExpected (side : Side) (urb : Urb) : Nat :=
  if urb.pipe.isIn = decide (side = .vhci) ∧ 0 < (xbuffSize side urb).toInt then
    (xbuffSize side urb).toNat
  else 0

/-- Nothing is taken when nothing is expected. -/
lemma usbipRecvXbuff_of_expected_eq_zero {side : Side} {io : List Recvmsg} {urb : Urb}
    (h : xbuffExpected side urb = 0) : usbipRecvXbuff side io urb = ⟨0, false, urb, io⟩ := by
  unfold usbipRecvXbuff
  by_cases hdir : urb.pipe.isIn = decide (side = .vhci)
  · have hsize : (xbuffSize side urb).toInt ≤ 0 := by
      by_contra hpos
      have hnat := toInt_eq_toNat_of_nonneg (x := xbuffSize side urb) (by omega)
      rw [xbuffExpected, if_pos ⟨hdir, by omega⟩] at h
      omega
    rw [if_neg (not_not_intro hdir)]
    exact if_pos hsize
  · rw [if_pos hdir]

/-- The receipt of data that fits. -/
lemma usbipRecvXbuff_of_pos {side : Side} (io : List Recvmsg) {urb : Urb}
    (hdir : urb.pipe.isIn = decide (side = .vhci)) (hpos : 0 < (xbuffSize side urb).toInt)
    (hle : xbuffSize side urb ≤ urb.transferBufferLength) :
    usbipRecvXbuff side io urb =
      let r := usbipRecv (xbuffSize side urb).toNat io
      let urb' := { urb with transferBuffer := r.buf ++ urb.transferBuffer.drop r.buf.length }
      if r.ret = (xbuffSize side urb).toInt then ⟨r.ret, false, urb', r.io⟩
      else ⟨if side = .vhci then -EPIPE.toInt else r.ret, true, urb', r.io⟩ := by
  show (if _ then _ else if (xbuffSize side urb).toInt ≤ 0 then _
    else if urb.transferBufferLength < xbuffSize side urb then _ else _) = _
  rw [if_neg (not_not_intro hdir), if_neg (by omega), if_neg (BitVec.not_lt.mpr hle)]
  rfl

/-- Data stored at the start of the transfer buffer. -/
def Urb.withData (urb : Urb) (data : List Byte) : Urb :=
  { urb with transferBuffer := data ++ urb.transferBuffer.drop data.length }

/-- Descriptors stored at the start of the array. -/
def Urb.withIso (urb : Urb) (iso : List IsoPacketDescriptor) : Urb :=
  { urb with isoFrameDesc := iso ++ urb.isoFrameDesc.drop iso.length }

/-- The data that is expected is stored at the start of the buffer, and nothing more is taken. -/
theorem usbipRecvXbuff_of_data {side : Side} {io : List Recvmsg} {urb : Urb}
    {data rest : List Byte} (hav : available io = data ++ rest)
    (hdata : data.length = xbuffExpected side urb)
    (hfit : data.length ≤ urb.transferBufferLength.toNat) :
    ∃ io', usbipRecvXbuff side io urb = ⟨data.length, false, urb.withData data, io'⟩ ∧
      available io' = rest := by
  by_cases hexp : xbuffExpected side urb = 0
  · obtain rfl : data = [] := List.length_eq_zero_iff.mp (hdata.trans hexp)
    exact ⟨io, usbipRecvXbuff_of_expected_eq_zero hexp, hav⟩
  · unfold xbuffExpected at hdata hexp
    split at hexp
    · rename_i hmust
      obtain ⟨hdir, hpos⟩ := hmust
      rw [if_pos ⟨hdir, hpos⟩] at hdata
      have hsize : (xbuffSize side urb).toInt = data.length := by
        rw [hdata, toInt_eq_toNat_of_nonneg (Int.le_of_lt hpos)]
      have hall : (xbuffSize side urb).toNat ≤ (available io).length := by
        rw [hav, List.length_append]
        omega
      obtain ⟨hret, hbuf, hio⟩ := usbipRecv_of_le (by omega) hall
      rw [hav, List.take_left' hdata] at hbuf
      rw [hav, List.drop_left' hdata] at hio
      have hle : xbuffSize side urb ≤ urb.transferBufferLength := by
        rw [BitVec.le_def]
        omega
      refine ⟨_, ?_, hio⟩
      rw [usbipRecvXbuff_of_pos io hdir hpos hle]
      dsimp only
      rw [if_pos (by rw [hret, hsize, hdata]), hret, hbuf, ← hdata]
      rfl
    · exact absurd rfl hexp

/-- How many descriptors `usbip_recv_iso` takes from a socket. -/
def isoExpected (urb : Urb) : Nat :=
  if urb.pipe.type = .isochronous then urb.numberOfPackets.toNat else 0

/-- The descriptors that are expected are stored at the start of the array, and nothing more is
taken, when their lengths add up. -/
theorem usbipRecvIso_of_wire {kz : Kzalloc} {io : List Recvmsg} {urb : Urb}
    {iso : List IsoPacketDescriptor} {rest : List Byte}
    (hav : available io = iso.flatMap IsoPacketDescriptor.wire ++ rest)
    (hiso : iso.length = isoExpected urb)
    (halloc : iso ≠ [] → kz.ok .recvIso (iso.length * 16) = true)
    (htotal : iso ≠ [] → totalLength iso = urb.actualLength) :
    ∃ io', usbipRecvIso (kz.ok .recvIso (sizeT (urb.numberOfPackets * 16).toInt)) io urb =
        ⟨(iso.length * 16 : Nat), false, urb.withIso iso, io'⟩ ∧
      available io' = rest := by
  unfold isoExpected at hiso
  unfold usbipRecvIso
  by_cases hskip : urb.pipe.type ≠ .isochronous ∨ urb.numberOfPackets = 0
  · obtain rfl : iso = [] := by
      rw [← List.length_eq_zero_iff, hiso]
      split
      · rename_i hisoc
        rw [hskip.resolve_left (not_not_intro hisoc)]
        rfl
      · rfl
    exact ⟨io, by rw [if_pos hskip]; rfl, hav⟩
  · obtain ⟨hisoc, hnp⟩ := not_or.mp hskip
    rw [if_pos (not_not.mp hisoc)] at hiso
    have hne : iso ≠ [] := by
      rintro rfl
      exact hnp (BitVec.eq_of_toNat_eq hiso.symm)
    have hlt := kz.lt_of_ok _ _ (halloc hne)
    have hsize : (urb.numberOfPackets * 16).toNat = iso.length * 16 := by
      rw [BitVec.toNat_mul, ← hiso, show (16 : BitVec 32).toNat = 16 from rfl]
      exact Nat.mod_eq_of_lt (by omega)
    have hint : (urb.numberOfPackets * 16).toInt = (iso.length * 16 : Nat) := by
      rw [BitVec.toInt_eq_toNat_of_lt (by omega), hsize]
    have hcount : urb.numberOfPackets.toInt = iso.length := by
      rw [hiso, BitVec.toInt_eq_toNat_of_lt (by omega)]
    have hpos : 0 < iso.length * 16 := Nat.mul_pos (List.length_pos_of_ne_nil hne) (by decide)
    have hok : kz.ok .recvIso (sizeT (urb.numberOfPackets * 16).toInt) = true := by
      rw [hint, sizeT_natCast hlt]
      exact halloc hne
    have hlen := length_flatMap_wire iso
    have hall : iso.length * 16 ≤ (available io).length := by
      rw [hav, List.length_append]
      omega
    obtain ⟨hret, hbuf, hio⟩ := usbipRecv_of_le hpos hall
    rw [hav, List.take_left' hlen] at hbuf
    rw [hav, List.drop_left' hlen] at hio
    refine ⟨_, ?_, hio⟩
    rw [if_neg hskip, hok]
    dsimp only
    rw [hint, hsize, if_neg (by simp), if_neg (not_not_intro hret), hbuf,
      isoReceived_flatMap_wire hcount, if_neg (not_not_intro (htotal hne)), hret]
    rfl

/-- What every receiver does after a header, until one of the two fails.
Source: `stub_rx.c`, `stub_recv_cmd_submit`, `vudc_rx.c`, `v_recv_cmd_submit`, and `vhci_rx.c`,
`vhci_recv_ret_submit`. -/
def recvPayload (side : Side) (kz : Kzalloc) (io : List Recvmsg) (urb : Urb) : Received :=
  let r₁ := usbipRecvXbuff side io urb
  if r₁.ret < 0 then r₁
  else
    let r₂ := usbipRecvIso (kz.ok .recvIso (sizeT (r₁.urb.numberOfPackets * 16).toInt)) r₁.io r₁.urb
    { r₂ with event := r₁.event || r₂.event }

/-- A payload that is as expected is taken, and nothing more. -/
theorem recvPayload_of_wire {side : Side} {kz : Kzalloc} {io : List Recvmsg} {urb : Urb}
    {data rest : List Byte} {iso : List IsoPacketDescriptor}
    (hav : available io = data ++ (iso.flatMap IsoPacketDescriptor.wire ++ rest))
    (hdata : data.length = xbuffExpected side urb)
    (hfit : data.length ≤ urb.transferBufferLength.toNat) (hiso : iso.length = isoExpected urb)
    (halloc : iso ≠ [] → kz.ok .recvIso (iso.length * 16) = true)
    (htotal : iso ≠ [] → totalLength iso = urb.actualLength) :
    ∃ io', recvPayload side kz io urb =
        ⟨(iso.length * 16 : Nat), false, (urb.withData data).withIso iso, io'⟩ ∧
      available io' = rest := by
  obtain ⟨io₁, hxbuff, hav₁⟩ := usbipRecvXbuff_of_data hav hdata hfit
  obtain ⟨io₂, hrecv, hav₂⟩ :=
    usbipRecvIso_of_wire hav₁ (show iso.length = isoExpected (urb.withData data) from hiso) halloc
      htotal
  refine ⟨io₂, ?_, hav₂⟩
  rw [recvPayload, hxbuff]
  dsimp only
  rw [if_neg (by omega), hrecv]
  rfl

end Usbip.Common
