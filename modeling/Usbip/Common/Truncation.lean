import Usbip.Common.Accesses

/-!
# Payloads that are cut short

A receive that comes to the end of what a socket holds returns what the last `recvmsg` returned,
0 when the connection was closed: `usbipRecv_of_lt`.  The two servers take a negative number for an
error and nothing else.  `recvPayload_nonneg_iff` says from which sockets they take a payload, and
`whole_iff` from which of these all of it.
-/

namespace Usbip.Common

open Usbip.Core

/-! ## The end of the bytes -/

/-- What the `recvmsg` at which the bytes run out returns, and the socket after it. -/
def cut : List Recvmsg → Int × List Recvmsg
  | .bytes (_ :: _) :: io => cut io
  | .bytes [] :: io => (0, io)
  | .fail e :: io => (-e, io)
  | [] => (0, [])

/-- The loop over a stream that ends early returns what cut it off, with what had come. -/
lemma usbipRecvLoop_of_short {size : Nat} {buf : List Byte} {io : List Recvmsg}
    (h : (available io).length < size) :
    usbipRecvLoop size buf io = ⟨(cut io).1, buf ++ available io, (cut io).2⟩ := by
  induction io generalizing size buf with
  | nil => rw [usbipRecvLoop, available, List.append_nil, cut]
  | cons r io ih =>
      rcases r with b | e
      · rcases b with _ | ⟨x, b⟩
        · rw [usbipRecvLoop, if_pos rfl, available, List.append_nil, cut]
        · rw [available, List.length_append] at h
          rw [usbipRecvLoop, if_neg (List.cons_ne_nil x b), if_pos (by omega),
            ih (by omega), available, cut, List.append_assoc]
      · rw [usbipRecvLoop, available, List.append_nil, cut]

/-- `usbip_recv` over a stream that ends early. -/
lemma usbipRecv_of_lt {size : Nat} {io : List Recvmsg} (h : (available io).length < size) :
    usbipRecv size io = ⟨(cut io).1, available io, (cut io).2⟩ := by
  rw [usbipRecv, if_neg (by omega), usbipRecvLoop_of_short h, List.nil_append]

/-- What cuts a receive off is an error or the end of the stream. -/
lemma cut_nonpos (io : List Recvmsg) : (cut io).1 ≤ 0 := by
  fun_induction cut io with
  | case1 _ _ io ih => exact ih
  | case2 => exact Int.le_refl 0
  | case3 e io => omega
  | case4 => exact Int.le_refl 0

/-! ## The transfer buffer -/

section Server

variable {side : Side} {kz : Kzalloc} {io : List Recvmsg} {urb : Urb}

/-- A server stores what it gets, adds an event, and returns what `recvmsg` did. -/
lemma usbipRecvXbuff_of_short (hside : side ≠ .vhci)
    (h : (available io).length < xbuffExpected side urb) :
    usbipRecvXbuff side io urb = ⟨(cut io).1, true, urb.withData (available io), (cut io).2⟩ := by
  unfold xbuffExpected at h
  split at h
  · rename_i hmust
    obtain ⟨hdir, hpos⟩ := hmust
    have hnat := toInt_eq_toNat_of_nonneg (Int.le_of_lt hpos)
    have hsize : xbuffSize side urb = urb.transferBufferLength := if_neg hside
    have hret : (cut io).1 ≠ (xbuffSize side urb).toInt := by
      have hnonpos := cut_nonpos io
      omega
    rw [usbipRecvXbuff_of_pos io hdir hpos (BitVec.le_def.mpr (by rw [hsize])), usbipRecv_of_lt h]
    dsimp only
    rw [if_neg hret, if_neg hside]
    rfl
  · omega

/-- What a server leaves of the socket and of the URB when nothing is missing. -/
lemma usbipRecvXbuff_of_le (hside : side ≠ .vhci)
    (h : xbuffExpected side urb ≤ (available io).length) :
    ∃ io', usbipRecvXbuff side io urb = ⟨xbuffExpected side urb, false,
        urb.withData ((available io).take (xbuffExpected side urb)), io'⟩ ∧
      available io' = (available io).drop (xbuffExpected side urb) := by
  have hlen : ((available io).take (xbuffExpected side urb)).length = xbuffExpected side urb := by
    rw [List.length_take]
    omega
  have hfit : xbuffExpected side urb ≤ urb.transferBufferLength.toNat := by
    have hsize : xbuffSize side urb = urb.transferBufferLength := if_neg hside
    unfold xbuffExpected
    rw [hsize]
    split <;> omega
  obtain ⟨io', hrecv, hav⟩ := usbipRecvXbuff_of_data (List.take_append_drop _ _).symm hlen
    (hlen.trans_le hfit)
  rw [hlen] at hrecv
  exact ⟨io', hrecv, hav⟩

/-- A server changes nothing of the URB but its buffer. -/
lemma usbipRecvXbuff_withData (io : List Recvmsg) (urb : Urb) (hside : side ≠ .vhci) :
    ∃ data, (usbipRecvXbuff side io urb).urb = urb.withData data := by
  by_cases hle : xbuffExpected side urb ≤ (available io).length
  · obtain ⟨io', hrecv, -⟩ := usbipRecvXbuff_of_le hside hle
    exact ⟨_, by rw [hrecv]⟩
  · exact ⟨_, by rw [usbipRecvXbuff_of_short hside (by omega)]⟩

/-! ## The descriptors -/

/-- The descriptors that a URB has follow in `b`, can be allocated, and their lengths add up. -/
def DescriptorsFollow (kz : Kzalloc) (b : List Byte) (urb : Urb) : Prop :=
  let size := urb.numberOfPackets * 16
  urb.pipe.type = .isochronous → urb.numberOfPackets ≠ 0 →
    kz.ok .recvIso (sizeT size.toInt) = true ∧ 0 < size.toInt ∧ size.toNat ≤ b.length ∧
      totalLength (isoReceived urb.numberOfPackets (b.take size.toNat)) = urb.actualLength

/-- `usbip_recv_iso` succeeds exactly when the descriptors can be allocated, come and are right. -/
lemma usbipRecvIso_nonneg_iff :
    0 ≤ (usbipRecvIso (kz.ok .recvIso (sizeT (urb.numberOfPackets * 16).toInt)) io urb).ret ↔
      DescriptorsFollow kz (available io) urb := by
  unfold DescriptorsFollow
  by_cases halloc : kz.ok .recvIso (sizeT (urb.numberOfPackets * 16).toInt) = true
  · simp only [halloc, true_and]
    exact usbipRecvIso_ret_nonneg_iff
  · have herr : ¬ 0 ≤ -ENOMEM.toInt := by decide
    unfold usbipRecvIso
    dsimp only
    by_cases hskip : urb.pipe.type ≠ .isochronous ∨ urb.numberOfPackets = 0
    · rw [if_pos hskip]
      refine iff_of_true (Int.le_refl 0) fun hisoc hnp => ?_
      exact absurd hskip (not_or.mpr ⟨not_not_intro hisoc, hnp⟩)
    · obtain ⟨hisoc, hnp⟩ := not_or.mp hskip
      rw [if_neg hskip, if_pos (Or.inr halloc)]
      exact iff_of_false herr fun h => halloc (h (not_not.mp hisoc) hnp).1

/-- What is stored in the URB. -/
lemma usbipRecvIso_urb_of_nonneg {allocOk : Bool} (h : 0 ≤ (usbipRecvIso allocOk io urb).ret)
    (hisoc : urb.pipe.type = .isochronous) (hnp : urb.numberOfPackets ≠ 0) :
    (usbipRecvIso allocOk io urb).urb = urb.withIso (isoReceived urb.numberOfPackets
      ((available io).take (urb.numberOfPackets * 16).toNat)) := by
  have hskip : ¬ (urb.pipe.type ≠ .isochronous ∨ urb.numberOfPackets = 0) :=
    not_or.mpr ⟨not_not_intro hisoc, hnp⟩
  have hnomem : ¬ 0 ≤ -ENOMEM.toInt := by decide
  have hpipe : ¬ 0 ≤ -EPIPE.toInt := by decide
  unfold usbipRecvIso at h ⊢
  dsimp only at h ⊢
  rw [if_neg hskip] at h ⊢
  by_cases halloc : (urb.numberOfPackets * 16).toInt < 0 ∨ ¬ allocOk = true
  · rw [if_pos halloc] at h
    exact absurd h hnomem
  · rw [if_neg halloc] at h ⊢
    have hpos := Int.not_lt.mp (not_or.mp halloc).1
    by_cases hret : (usbipRecv (urb.numberOfPackets * 16).toNat io).ret =
        (urb.numberOfPackets * 16).toInt
    · rw [if_neg (not_not_intro hret)] at h ⊢
      obtain ⟨hpos', hle⟩ := (usbipRecv_ret_eq_toInt_iff io hpos).mp hret
      have hnat := toInt_eq_toNat_of_nonneg hpos
      obtain ⟨-, hbuf, -⟩ := usbipRecv_of_le (by omega) hle
      rw [hbuf] at h ⊢
      split_ifs <;> rfl
    · rw [if_pos hret] at h
      exact absurd h hpipe

/-! ## The payload -/

/-- A server takes a payload that is complete, and one that ends too early with a 0. -/
theorem recvPayload_nonneg_iff (hside : side ≠ .vhci) :
    0 ≤ (recvPayload side kz io urb).ret ↔
      xbuffExpected side urb ≤ (available io).length ∧
          DescriptorsFollow kz ((available io).drop (xbuffExpected side urb)) urb ∨
        (available io).length < xbuffExpected side urb ∧ (cut io).1 = 0 ∧
          DescriptorsFollow kz (available (cut io).2) urb := by
  by_cases hle : xbuffExpected side urb ≤ (available io).length
  · obtain ⟨io', hrecv, hav⟩ := usbipRecvXbuff_of_le hside hle
    have hiso : 0 ≤ (recvPayload side kz io urb).ret ↔
        DescriptorsFollow kz (available io') urb := by
      rw [recvPayload, hrecv]
      dsimp only
      rw [if_neg (by omega)]
      exact usbipRecvIso_nonneg_iff
    rw [hiso, hav]
    constructor
    · exact fun h => Or.inl ⟨hle, h⟩
    · rintro (⟨-, h⟩ | ⟨hlt, -⟩)
      · exact h
      · omega
  · have hlt : (available io).length < xbuffExpected side urb := by omega
    have hnonpos := cut_nonpos io
    unfold recvPayload
    rw [usbipRecvXbuff_of_short hside hlt]
    dsimp only
    by_cases hret : (cut io).1 < 0
    · rw [if_pos hret]
      refine iff_of_false (Int.not_le.mpr hret) ?_
      rintro (⟨h, -⟩ | ⟨-, h, -⟩) <;> omega
    · rw [if_neg hret]
      have hiso : 0 ≤ (usbipRecvIso
          (kz.ok .recvIso (sizeT ((urb.withData (available io)).numberOfPackets * 16).toInt)) (cut io).2
          (urb.withData (available io))).ret ↔ DescriptorsFollow kz (available (cut io).2) urb :=
        usbipRecvIso_nonneg_iff
      rw [hiso]
      constructor
      · exact fun h => Or.inr ⟨hlt, by omega, h⟩
      · rintro (⟨h, -⟩ | ⟨-, -, h⟩)
        · omega
        · exact h

/-- Every error of `usbip_recv_iso` is an event, except that of an allocation. -/
lemma usbipRecvIso_answered_iff :
    (0 ≤ (usbipRecvIso (kz.ok .recvIso (sizeT (urb.numberOfPackets * 16).toInt)) io urb).ret ∨
        (usbipRecvIso (kz.ok .recvIso (sizeT (urb.numberOfPackets * 16).toInt)) io urb).event = true) ↔
      (urb.pipe.type = .isochronous → urb.numberOfPackets ≠ 0 →
        kz.ok .recvIso (sizeT (urb.numberOfPackets * 16).toInt) = true) := by
  have hnomem : ¬ 0 ≤ -ENOMEM.toInt := by decide
  unfold usbipRecvIso
  dsimp only
  by_cases hskip : urb.pipe.type ≠ .isochronous ∨ urb.numberOfPackets = 0
  · rw [if_pos hskip]
    refine iff_of_true (Or.inl (Int.le_refl 0)) fun hisoc hnp => ?_
    exact absurd hskip (not_or.mpr ⟨not_not_intro hisoc, hnp⟩)
  · obtain ⟨hisoc, hnp⟩ := not_or.mp hskip
    rw [if_neg hskip, forall_prop_of_true (not_not.mp hisoc), forall_prop_of_true hnp]
    by_cases halloc : kz.ok .recvIso (sizeT (urb.numberOfPackets * 16).toInt) = true
    · have hpos := Kzalloc.nonneg_of_ok halloc
      rw [if_neg (not_or.mpr ⟨by omega, not_not_intro halloc⟩)]
      refine iff_of_true ?_ halloc
      split_ifs with hret htotal
      · exact Or.inr rfl
      · exact Or.inr rfl
      · exact Or.inl (by dsimp only; omega)
    · rw [if_pos (Or.inr halloc)]
      refine iff_of_false ?_ halloc
      simpa using hnomem

/-- A server that does not take a payload adds an event, unless it has no memory for the
descriptors. -/
theorem recvPayload_answered_iff (kz : Kzalloc) (io : List Recvmsg) (urb : Urb)
    (hside : side ≠ .vhci) :
    (0 ≤ (recvPayload side kz io urb).ret ∨ (recvPayload side kz io urb).event = true) ↔
      (xbuffExpected side urb ≤ (available io).length → urb.pipe.type = .isochronous →
        urb.numberOfPackets ≠ 0 → kz.ok .recvIso (sizeT (urb.numberOfPackets * 16).toInt) = true) := by
  by_cases hle : xbuffExpected side urb ≤ (available io).length
  · obtain ⟨io', hrecv, -⟩ := usbipRecvXbuff_of_le hside hle
    rw [forall_prop_of_true hle, recvPayload, hrecv]
    dsimp only
    rw [if_neg (by omega)]
    simp only [Bool.false_or]
    exact usbipRecvIso_answered_iff
  · refine iff_of_true (Or.inr ?_) fun h => absurd h hle
    unfold recvPayload
    rw [usbipRecvXbuff_of_short hside (by omega)]
    dsimp only
    split <;> rfl

/-- How many bytes of data follow the header of a request. -/
def Urb.outLength (urb : Urb) : Nat :=
  if urb.pipe.isIn then 0 else urb.transferBufferLength.toInt.toNat

/-- All of a payload is in the URB: the data of an OUT transfer, and the descriptors of the
isochronous packets behind it. -/
structure Whole (io : List Recvmsg) (urb : Urb) : Prop where
  data : urb.pipe.isIn = false → urb.outLength ≤ (available io).length ∧
    urb.transferBuffer = (available io).take urb.outLength
  descriptors : urb.pipe.type = .isochronous →
    let n := urb.numberOfPackets.toInt.toNat
    let b := (available io).drop urb.outLength
    n * 16 ≤ b.length ∧ urb.isoFrameDesc.take n = isoDescriptors (b.take (n * 16))

/-- A payload that is taken although its data ends too early: with a 0, and no descriptors are
expected, or they come then. -/
def Truncates (kz : Kzalloc) (io : List Recvmsg) (urb : Urb) : Prop :=
  (available io).length < urb.outLength ∧ (cut io).1 = 0 ∧
    DescriptorsFollow kz (available (cut io).2) urb

/-- The URB after a payload that was taken. -/
lemma recvPayload_urb (hside : side ≠ .vhci) (hle : xbuffExpected side urb ≤ (available io).length)
    (h : 0 ≤ (recvPayload side kz io urb).ret) :
    ∃ iso, (recvPayload side kz io urb).urb =
        (urb.withData ((available io).take (xbuffExpected side urb))).withIso iso ∧
      (urb.pipe.type = .isochronous → urb.numberOfPackets ≠ 0 →
        iso = isoReceived urb.numberOfPackets
          (((available io).drop (xbuffExpected side urb)).take
            (urb.numberOfPackets * 16).toNat)) := by
  obtain ⟨io', hrecv, hav⟩ := usbipRecvXbuff_of_le hside hle
  rw [recvPayload, hrecv] at h ⊢
  dsimp only at h ⊢
  rw [if_neg (by omega)] at h ⊢
  by_cases hskip : urb.pipe.type ≠ .isochronous ∨ urb.numberOfPackets = 0
  · refine ⟨[], ?_, fun hisoc hnp => absurd hskip (not_or.mpr ⟨not_not_intro hisoc, hnp⟩)⟩
    unfold usbipRecvIso
    dsimp only
    rw [if_pos (show (urb.withData _).pipe.type ≠ .isochronous ∨
      (urb.withData _).numberOfPackets = 0 from hskip)]
    rfl
  · obtain ⟨hisoc, hnp⟩ := not_or.mp hskip
    refine ⟨_, ?_, fun _ _ => rfl⟩
    rw [← hav]
    exact usbipRecvIso_urb_of_nonneg h (not_not.mp hisoc) hnp

/-- Only the buffer and the descriptors of the URB are written. -/
lemma recvPayload_fields (kz : Kzalloc) (io : List Recvmsg) (urb : Urb) (hside : side ≠ .vhci) : ∃ buf iso,
    (recvPayload side kz io urb).urb = { urb with transferBuffer := buf, isoFrameDesc := iso } := by
  obtain ⟨data, hdata⟩ := usbipRecvXbuff_withData io urb hside
  unfold recvPayload
  dsimp only
  split
  · exact ⟨_, _, hdata⟩
  · obtain ⟨iso, hiso⟩ := usbipRecvIso_urb
      (kz.ok .recvIso (sizeT ((usbipRecvXbuff side io urb).urb.numberOfPackets * 16).toInt))
      (usbipRecvXbuff side io urb).io (usbipRecvXbuff side io urb).urb
    refine ⟨(urb.withData data).transferBuffer, iso, hiso.trans ?_⟩
    rw [hdata]
    rfl

/-- What a server expects of the data. -/
lemma xbuffExpected_server (urb : Urb) (hside : side ≠ .vhci) :
    xbuffExpected side urb = if urb.pipe.isIn = false ∧ 0 < urb.transferBufferLength.toInt then
      urb.transferBufferLength.toNat else 0 := by
  have hsize : xbuffSize side urb = urb.transferBufferLength := if_neg hside
  rw [xbuffExpected, hsize, decide_eq_false hside]

/-- A server expects the data of an OUT request. -/
lemma xbuffExpected_eq_outLength (urb : Urb) (hside : side ≠ .vhci) :
    xbuffExpected side urb = urb.outLength := by
  have hnat := BitVec.toInt_eq_toNat_cond urb.transferBufferLength
  rw [xbuffExpected_server urb hside, Urb.outLength]
  cases urb.pipe.isIn
  · simp only [true_and, Bool.false_eq_true, if_false]
    split <;> split at hnat <;> omega
  · simp

/-- The loop takes as many descriptors as there are. -/
lemma isoReceived_take {np : BitVec 32} {b : List Byte} (hpos : 0 < (np * 16).toInt)
    (hlt : np.toInt < 2 ^ 27) (hle : (np * 16).toNat ≤ b.length) :
    np.toInt.toNat * 16 ≤ b.length ∧ isoReceived np (b.take (np * 16).toNat) =
      isoDescriptors (b.take (np.toInt.toNat * 16)) := by
  have hmul := (mul_le_size_iff hpos).mpr hlt
  refine ⟨hmul.trans hle, ?_⟩
  by_cases hneg : np.toInt ≤ 0
  · have hzero : np.toInt.toNat = 0 := by omega
    rw [isoReceived, hzero, Nat.zero_mul, List.take_zero, List.take_zero]
    rfl
  · have hnat := toInt_eq_toNat_of_nonneg (x := np) (by omega)
    have hsize : np.toInt.toNat * 16 = (np * 16).toNat := by
      rw [BitVec.toNat_mul, show (16 : BitVec 32).toNat = 16 from rfl]
      omega
    rw [isoReceived, hsize, List.take_of_length_le]
    rw [length_isoDescriptors, List.length_take]
    omega

/-- The data in the buffer of a URB that was taken. -/
lemma whole_withData (hbuf : urb.transferBuffer.length = urb.transferBufferLength.toInt.toNat)
    (hout : urb.pipe.isIn = false) (hle : urb.outLength ≤ (available io).length) :
    (urb.withData ((available io).take urb.outLength)).transferBuffer =
      (available io).take urb.outLength := by
  have hempty : urb.transferBuffer.drop ((available io).take urb.outLength).length = [] := by
    have hlength : urb.outLength = urb.transferBufferLength.toInt.toNat := if_neg (by simp [hout])
    rw [List.drop_eq_nil_iff, List.length_take, Nat.min_eq_left hle, hbuf, hlength]
  show (available io).take urb.outLength ++ urb.transferBuffer.drop _ = _
  rw [hempty, List.append_nil]

/-- The descriptors of a URB that was taken, which follow in `b`. -/
lemma whole_withIso {b : List Byte} {iso : List IsoPacketDescriptor}
    (hroom : urb.numberOfPackets.toInt < 2 ^ 27) (hisoc : urb.pipe.type = .isochronous)
    (hfollow : DescriptorsFollow kz b urb)
    (hiso : urb.numberOfPackets ≠ 0 →
      iso = isoReceived urb.numberOfPackets (b.take (urb.numberOfPackets * 16).toNat)) :
    urb.numberOfPackets.toInt.toNat * 16 ≤ b.length ∧
      (iso ++ urb.isoFrameDesc.drop iso.length).take urb.numberOfPackets.toInt.toNat =
        isoDescriptors (b.take (urb.numberOfPackets.toInt.toNat * 16)) := by
  by_cases hnp : urb.numberOfPackets = 0
  · rw [hnp, show (0 : BitVec 32).toInt.toNat = 0 from rfl, Nat.zero_mul, List.take_zero,
      List.take_zero]
    exact ⟨Nat.zero_le _, rfl⟩
  · obtain ⟨-, hpos, hall, -⟩ := hfollow hisoc hnp
    obtain ⟨hmul, hreceived⟩ := isoReceived_take hpos hroom hall
    have hcount : iso.length = urb.numberOfPackets.toInt.toNat := by
      rw [hiso hnp]
      apply length_isoReceived
      rw [List.length_take, Nat.min_eq_left hall]
      exact (mul_le_size_iff hpos).mpr hroom
    refine ⟨hmul, ?_⟩
    rw [List.take_left' hcount, hiso hnp, hreceived]

/-- A server takes only whole payloads, unless one is truncated and taken all the same. -/
theorem recvPayload_whole_iff (kz : Kzalloc) (io : List Recvmsg) (hside : side ≠ .vhci)
    (hbuf : urb.transferBuffer.length = urb.transferBufferLength.toInt.toNat)
    (hroom : urb.pipe.type = .isochronous → urb.numberOfPackets.toInt < 2 ^ 27) :
    (0 ≤ (recvPayload side kz io urb).ret → Whole io (recvPayload side kz io urb).urb) ↔
      ¬ Truncates kz io urb := by
  have hexpected := xbuffExpected_eq_outLength urb hside
  have hnonneg := @recvPayload_nonneg_iff side kz io urb hside
  rw [hexpected] at hnonneg
  constructor
  · rintro hwhole ⟨hlt, hcut, hfollow⟩
    obtain ⟨buf, iso, hurb⟩ := recvPayload_fields kz io urb hside
    have hdata := (hwhole (hnonneg.mpr (Or.inr ⟨hlt, hcut, hfollow⟩))).data
    rw [hurb] at hdata
    cases hin : urb.pipe.isIn
    · exact absurd (hdata hin).1 (Nat.not_le.mpr hlt)
    · have hzero : urb.outLength = 0 := if_pos hin
      omega
  · intro htruncates hret
    rcases hnonneg.mp hret with ⟨hle, hfollow⟩ | htrunc
    · obtain ⟨iso, hurb, hiso⟩ := recvPayload_urb hside (hexpected.trans_le hle) hret
      rw [hexpected] at hurb hiso
      rw [hurb]
      exact ⟨fun hout => ⟨hle, whole_withData hbuf hout hle⟩,
        fun hisoc => whole_withIso (hroom hisoc) hisoc hfollow (hiso hisoc)⟩
    · exact absurd htrunc htruncates

end Server

end Usbip.Common
