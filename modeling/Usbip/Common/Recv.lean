import Usbip.Common.Header

/-!
# Receiving a payload

`usbip_recv` collects a given number of bytes from a socket that hands them out in pieces of its
own choice.  `usbip_recv_xbuff` and `usbip_recv_iso` receive what follows the header of a PDU: the
transfer buffer, when its direction is towards the receiver, and the descriptors of the
isochronous packets.

A socket is the list of what its calls of `recvmsg` will give; `available` are the bytes it still
holds.  `usbipRecv_eq` says what `usbip_recv` makes of them, and from it
`usbipRecvXbuff_ret_nonneg_iff` and `usbipRecvIso_ret_nonneg_iff` say which payloads the two
receivers accept on the client's side.
-/

namespace Usbip.Common

/-- What `recvmsg` has to give: some bytes, taken as far as they fit, or the return value `-e`,
with 0 for a connection that was closed. -/
inductive Recvmsg
  | bytes (b : List Byte)
  | fail (e : Nat)
  deriving DecidableEq

/-- The bytes that can be received before a `recvmsg` fails. -/
def available : List Recvmsg → List Byte
  | .bytes (x :: b) :: io => x :: b ++ available io
  | .bytes [] :: _ | .fail _ :: _ | [] => []

/-- The return value of `usbip_recv`, the bytes stored in the buffer, and the socket after it. -/
structure Recv where
  ret : Int
  buf : List Byte
  io : List Recvmsg
  deriving DecidableEq

/-- The loop of `usbip_recv`, with `size` bytes to go and `buf` stored.
Source: `usbip_common.c`, `usbip_recv`. -/
def usbipRecvLoop (size : Nat) (buf : List Byte) : List Recvmsg → Recv
  | .bytes b :: io =>
      if b = [] then ⟨0, buf, io⟩
      else if b.length < size then usbipRecvLoop (size - b.length) (buf ++ b) io
      else
        let buf := buf ++ b.take size
        ⟨buf.length, buf, if b.length = size then io else .bytes (b.drop size) :: io⟩
  | .fail e :: io => ⟨-e, buf, io⟩
  | [] => ⟨0, buf, []⟩

/-- Source: `usbip_common.c`, `usbip_recv`. -/
def usbipRecv (size : Nat) (io : List Recvmsg) : Recv :=
  if size = 0 then ⟨-EINVAL.toInt, [], io⟩ else usbipRecvLoop size [] io

/-- When enough has come, the loop takes just what it wants and leaves the rest. -/
lemma usbipRecvLoop_of_le (size : Nat) (buf : List Byte) {io : List Recvmsg} (hpos : 0 < size)
    (h : size ≤ (available io).length) :
    (usbipRecvLoop size buf io).ret = (buf.length + size : Nat) ∧
      (usbipRecvLoop size buf io).buf = buf ++ (available io).take size ∧
      available (usbipRecvLoop size buf io).io = (available io).drop size := by
  induction io generalizing size buf with
  | nil => simp [available] at h; omega
  | cons r io ih =>
      match r with
      | .fail e => simp [available] at h; omega
      | .bytes [] => simp [available] at h; omega
      | .bytes (x :: b) =>
          rw [available, List.length_append] at h
          rw [usbipRecvLoop, if_neg (List.cons_ne_nil x b), available]
          by_cases hlt : (x :: b).length < size
          · rw [if_pos hlt, List.take_append, List.drop_append,
              List.take_of_length_le (Nat.le_of_lt hlt), List.drop_eq_nil_of_le (Nat.le_of_lt hlt),
              List.nil_append,
              ← List.append_assoc]
            obtain ⟨hret, hbuf, hio⟩ :=
              ih (size - (x :: b).length) (buf ++ (x :: b)) (by omega) (by omega)
            refine ⟨?_, hbuf, hio⟩
            rw [hret, List.length_append]
            congr 1
            omega
          · rw [if_neg hlt]
            have hle : size ≤ (x :: b).length := by omega
            dsimp only
            refine ⟨by simp only [List.length_append, List.length_take]; congr 1; omega, ?_, ?_⟩
            · rw [List.take_append_of_le_length hle]
            · rw [List.drop_append_of_le_length hle]
              split
              · rename_i heq
                rw [List.drop_eq_nil_of_le (by omega), List.nil_append]
              · rename_i hne
                obtain ⟨y, rest, hdrop⟩ : ∃ y rest, (x :: b).drop size = y :: rest := by
                  apply List.exists_cons_of_ne_nil
                  rw [Ne, List.drop_eq_nil_iff]
                  omega
                rw [hdrop, available]

/-- When the stream ends early, the loop does not return a size. -/
lemma usbipRecvLoop_of_lt {size : Nat} {buf : List Byte} {io : List Recvmsg}
    (h : (available io).length < size) : (usbipRecvLoop size buf io).ret ≤ 0 := by
  induction io generalizing size buf with
  | nil => exact Int.le_refl 0
  | cons r io ih =>
      match r with
      | .fail e =>
          show -(e : Int) ≤ 0
          omega
      | .bytes [] =>
          have hret : (usbipRecvLoop size buf (.bytes [] :: io)).ret = 0 := by
            rw [usbipRecvLoop, if_pos rfl]
          exact Int.le_of_eq hret
      | .bytes (x :: b) =>
          rw [available, List.length_append] at h
          rw [usbipRecvLoop, if_neg (List.cons_ne_nil x b), if_pos (by omega)]
          exact ih (by omega)

/-- `usbip_recv` returns the number of bytes asked for when there are so many, and then has
stored exactly these. -/
theorem usbipRecv_of_le {size : Nat} {io : List Recvmsg} (hpos : 0 < size)
    (h : size ≤ (available io).length) :
    (usbipRecv size io).ret = size ∧ (usbipRecv size io).buf = (available io).take size ∧
      available (usbipRecv size io).io = (available io).drop size := by
  rw [usbipRecv, if_neg (by omega)]
  simpa using usbipRecvLoop_of_le size [] hpos h

/-- `usbip_recv` returns its size exactly when so many bytes come. -/
theorem usbipRecv_ret_eq_iff {size : Nat} {io : List Recvmsg} (hpos : 0 < size) :
    (usbipRecv size io).ret = size ↔ size ≤ (available io).length := by
  constructor
  · intro h
    by_contra hlt
    have hneg : (usbipRecv size io).ret ≤ 0 := by
      rw [usbipRecv, if_neg (by omega)]
      exact usbipRecvLoop_of_lt (by omega)
    omega
  · exact fun h => (usbipRecv_of_le hpos h).1

/-! ## The transfer buffer -/

/-- Source: `usbip_common.h`, `enum usbip_side`. -/
inductive Side
  | vhci
  | stub
  | vudc
  deriving DecidableEq

/-- What a receiver of a payload returns and leaves: whether it added an event, the URB, and the
socket. -/
structure Received where
  ret : Int
  event : Bool
  urb : Urb
  io : List Recvmsg
  deriving DecidableEq

/-- Source: `usbip_common.c`, `usbip_recv_xbuff`. -/
def usbipRecvXbuff (side : Side) (io : List Recvmsg) (urb : Urb) : Received :=
  if urb.pipe.isIn ≠ decide (side = .vhci) then ⟨0, false, urb, io⟩
  else
    let size := if side = .vhci then urb.actualLength else urb.transferBufferLength
    if size.toInt ≤ 0 then ⟨0, false, urb, io⟩
    -- the `int` is compared as unsigned
    else if urb.transferBufferLength < size then
      ⟨if side = .stub then 0 else -EPIPE.toInt, true, urb, io⟩
    else
      let r := usbipRecv size.toNat io
      let urb := { urb with transferBuffer := r.buf ++ urb.transferBuffer.drop r.buf.length }
      if r.ret = size.toInt then ⟨r.ret, false, urb, r.io⟩
      else ⟨if side = .vhci then -EPIPE.toInt else r.ret, true, urb, r.io⟩

/-! ## The isochronous packets -/

/-- A word in the byte order of the wire. -/
def be32 (b₀ b₁ b₂ b₃ : Byte) : BitVec 32 := b₀ ++ b₁ ++ b₂ ++ b₃

/-- The descriptors in a buffer.
Source: `usbip_common.h`, `struct usbip_iso_packet_descriptor`. -/
def isoDescriptors : List Byte → List IsoPacketDescriptor
  | o₀ :: o₁ :: o₂ :: o₃ :: l₀ :: l₁ :: l₂ :: l₃ :: a₀ :: a₁ :: a₂ :: a₃ ::
      s₀ :: s₁ :: s₂ :: s₃ :: rest =>
      ⟨be32 o₀ o₁ o₂ o₃, be32 l₀ l₁ l₂ l₃, be32 a₀ a₁ a₂ a₃, be32 s₀ s₁ s₂ s₃⟩ ::
        isoDescriptors rest
  | _ => []

def totalLength (iso : List IsoPacketDescriptor) : BitVec 32 :=
  (iso.map IsoPacketDescriptor.actualLength).sum

/-- The descriptors that the loop over `np` packets takes from a buffer: none when `np` is negative.
When there are more packets than descriptors in the buffer, the loop reads what lies behind it,
which is left out. -/
def isoReceived (np : BitVec 32) (buf : List Byte) : List IsoPacketDescriptor :=
  (isoDescriptors buf).take np.toInt.toNat

/-- A `kzalloc` of a negative size fails, any other as `allocOk` says.
Source: `usbip_common.c`, `usbip_recv_iso`. -/
def usbipRecvIso (allocOk : Bool) (io : List Recvmsg) (urb : Urb) : Received :=
  let size := urb.numberOfPackets * 16
  if urb.pipe.type ≠ .isochronous ∨ urb.numberOfPackets = 0 then ⟨0, false, urb, io⟩
  else if size.toInt < 0 ∨ ¬ allocOk then ⟨-ENOMEM.toInt, false, urb, io⟩
  else
    let r := usbipRecv size.toNat io
    if r.ret ≠ size.toInt then ⟨-EPIPE.toInt, true, urb, r.io⟩
    else
      let iso := isoReceived urb.numberOfPackets r.buf
      let urb := { urb with isoFrameDesc := iso ++ urb.isoFrameDesc.drop iso.length }
      if totalLength iso ≠ urb.actualLength then ⟨-EPIPE.toInt, true, urb, r.io⟩
      else ⟨r.ret, false, urb, r.io⟩

/-- Move `n` bytes of a buffer. -/
def memmove (dst src n : Nat) (buf : List Byte) : List Byte :=
  buf.take dst ++ (buf.drop src).take n ++ buf.drop (dst + n)

/-- The loop of `usbip_pad_iso` from packet `i` down to packet 1. -/
def usbipPadIsoLoop (iso : List IsoPacketDescriptor) : Nat → BitVec 32 → List Byte → List Byte
  | 0, _, buf => buf
  | i + 1, actualoffset, buf =>
      match iso[i + 1]? with
      | none => buf
      | some d =>
          let actualoffset := actualoffset - d.actualLength
          usbipPadIsoLoop iso i actualoffset
            (memmove d.offset.toNat actualoffset.toNat d.actualLength.toNat buf)

/-- Source: `usbip_common.c`, `usbip_pad_iso`. -/
def usbipPadIso (urb : Urb) : Urb :=
  if urb.pipe.type ≠ .isochronous ∨ urb.numberOfPackets = 0 ∨ urb.actualLength = 0 ∨
      urb.actualLength = urb.transferBufferLength then urb
  else { urb with
    transferBuffer := usbipPadIsoLoop urb.isoFrameDesc (urb.numberOfPackets.toInt - 1).toNat
      urb.actualLength urb.transferBuffer }

/-! ## What the client accepts -/

/-- A word that is not negative as an `int` is the same number without a sign. -/
lemma toInt_eq_toNat_of_nonneg {x : BitVec 32} (h : 0 ≤ x.toInt) : x.toInt = x.toNat := by
  rw [BitVec.toInt_eq_toNat_cond] at h ⊢
  split at h <;> omega

/-- The client accepts a transfer buffer when it expects none, or when the length announced fits
and so many bytes arrive. -/
theorem usbipRecvXbuff_ret_nonneg_iff {io : List Recvmsg} {urb : Urb} :
    0 ≤ (usbipRecvXbuff .vhci io urb).ret ↔
      (urb.pipe.isIn = true → 0 < urb.actualLength.toInt →
        urb.actualLength ≤ urb.transferBufferLength ∧
          urb.actualLength.toNat ≤ (available io).length) := by
  have hpipe : 0 < EPIPE.toInt := by decide
  unfold usbipRecvXbuff
  by_cases hin : urb.pipe.isIn = true
  · rw [if_neg (by simp [hin])]
    simp only [hin, forall_true_left, if_true, reduceCtorEq, if_false]
    by_cases hlen : 0 < urb.actualLength.toInt
    · have hsize : urb.actualLength.toInt = urb.actualLength.toNat :=
        toInt_eq_toNat_of_nonneg (Int.le_of_lt hlen)
      have hpos : 0 < urb.actualLength.toNat := by omega
      rw [if_neg (by omega)]
      simp only [hlen, forall_true_left]
      by_cases hfit : urb.transferBufferLength < urb.actualLength
      · rw [if_pos hfit]
        simp [hpipe, BitVec.not_le.mpr hfit]
      · rw [if_neg hfit, hsize]
        simp only [usbipRecv_ret_eq_iff hpos, BitVec.not_lt.mp hfit, true_and]
        by_cases hav : urb.actualLength.toNat ≤ (available io).length
        · simp [hav, (usbipRecv_of_le hpos hav).1]
        · simp [hav, hpipe]
    · rw [if_pos (by omega)]
      simp [hlen]
  · rw [if_pos (by simp [hin])]
    simp [hin]

/-- What the client takes from the socket for the transfer buffer. -/
def xbuffLength (urb : Urb) : Nat :=
  if urb.pipe.isIn = true ∧ 0 < urb.actualLength.toInt then urb.actualLength.toNat else 0

/-- A receive that succeeds leaves what is behind the buffer. -/
lemma available_usbipRecvXbuff {io : List Recvmsg} {urb : Urb}
    (h : 0 ≤ (usbipRecvXbuff .vhci io urb).ret) :
    available (usbipRecvXbuff .vhci io urb).io = (available io).drop (xbuffLength urb) := by
  have hmust := usbipRecvXbuff_ret_nonneg_iff.mp h
  unfold usbipRecvXbuff xbuffLength
  by_cases hin : urb.pipe.isIn = true
  · rw [if_neg (by simp [hin])]
    simp only [hin, if_true, true_and, reduceCtorEq, if_false]
    by_cases hlen : 0 < urb.actualLength.toInt
    · obtain ⟨hfit, hav⟩ := hmust hin hlen
      have hsize : urb.actualLength.toInt = urb.actualLength.toNat :=
        toInt_eq_toNat_of_nonneg (Int.le_of_lt hlen)
      obtain ⟨hret, -, hio⟩ := usbipRecv_of_le (by omega) hav
      rw [if_neg (by omega), if_neg (BitVec.not_lt.mpr hfit), if_pos (hret.trans hsize.symm),
        if_pos hlen]
      exact hio
    · rw [if_pos (by omega), if_neg hlen, List.drop_zero]
  · rw [if_pos (by simp [hin]), if_neg (by simp [hin]), List.drop_zero]

/-- What the client takes from the socket is at the start of the transfer buffer. -/
lemma usbipRecvXbuff_transferBuffer {io : List Recvmsg} {urb : Urb}
    (h : 0 ≤ (usbipRecvXbuff .vhci io urb).ret) :
    xbuffLength urb ≤ (available io).length ∧
      (usbipRecvXbuff .vhci io urb).urb.transferBuffer.take (xbuffLength urb) =
        (available io).take (xbuffLength urb) := by
  have hmust := usbipRecvXbuff_ret_nonneg_iff.mp h
  unfold xbuffLength
  split
  · rename_i hlen
    obtain ⟨hfit, hav⟩ := hmust hlen.1 hlen.2
    have hsize : urb.actualLength.toInt = urb.actualLength.toNat :=
      toInt_eq_toNat_of_nonneg (Int.le_of_lt hlen.2)
    obtain ⟨hret, hbuf, -⟩ := usbipRecv_of_le (by omega) hav
    refine ⟨hav, ?_⟩
    unfold usbipRecvXbuff
    simp only [hlen.1, decide_true, ne_eq, not_true_eq_false, if_false, if_true]
    rw [if_neg (by omega), if_neg (BitVec.not_lt.mpr hfit), if_pos (hret.trans hsize.symm)]
    dsimp only
    rw [hbuf, List.take_append_of_le_length (by simp [hav]), List.take_take, Nat.min_self]
  · exact ⟨Nat.zero_le _, by simp⟩

/-- Only the buffer of the URB is written. -/
lemma usbipRecvXbuff_urb (io : List Recvmsg) (urb : Urb) :
    ∃ buf, (usbipRecvXbuff .vhci io urb).urb = { urb with transferBuffer := buf } := by
  unfold usbipRecvXbuff
  simp only [if_true, reduceCtorEq, if_false]
  split
  · exact ⟨urb.transferBuffer, rfl⟩
  · split
    · exact ⟨urb.transferBuffer, rfl⟩
    · split
      · exact ⟨urb.transferBuffer, rfl⟩
      · split <;> exact ⟨_, rfl⟩

/-- Only the descriptors of the URB are written. -/
lemma usbipRecvIso_urb (allocOk : Bool) (io : List Recvmsg) (urb : Urb) :
    ∃ iso, (usbipRecvIso allocOk io urb).urb = { urb with isoFrameDesc := iso } := by
  unfold usbipRecvIso
  dsimp only
  split
  · exact ⟨urb.isoFrameDesc, rfl⟩
  · split
    · exact ⟨urb.isoFrameDesc, rfl⟩
    · split
      · exact ⟨urb.isoFrameDesc, rfl⟩
      · split <;> exact ⟨_, rfl⟩

/-- Only the buffer of the URB is written. -/
lemma usbipPadIso_urb (urb : Urb) : ∃ buf, usbipPadIso urb = { urb with transferBuffer := buf } := by
  unfold usbipPadIso
  split
  · exact ⟨urb.transferBuffer, rfl⟩
  · exact ⟨_, rfl⟩

/-- The client accepts the packets when it expects none, or when the descriptors arrive and their
lengths add up. -/
theorem usbipRecvIso_ret_nonneg_iff {io : List Recvmsg} {urb : Urb} :
    0 ≤ (usbipRecvIso true io urb).ret ↔
      (urb.pipe.type = .isochronous → urb.numberOfPackets ≠ 0 →
        0 < (urb.numberOfPackets * 16).toInt ∧
          (urb.numberOfPackets * 16).toNat ≤ (available io).length ∧
          totalLength (isoReceived urb.numberOfPackets
            ((available io).take (urb.numberOfPackets * 16).toNat)) = urb.actualLength) := by
  unfold usbipRecvIso
  have hpipe : 0 < EPIPE.toInt := by decide
  have hnomem : 0 < ENOMEM.toInt := by decide
  dsimp only
  by_cases hskip : urb.pipe.type ≠ .isochronous ∨ urb.numberOfPackets = 0
  · rw [if_pos hskip]
    refine iff_of_true (Int.le_refl 0) fun hiso hnp => ?_
    rcases hskip with h | h
    · exact absurd hiso h
    · exact absurd h hnp
  · rw [if_neg hskip]
    obtain ⟨hiso, hnp⟩ := not_or.mp hskip
    simp only [not_not.mp hiso, forall_true_left, ne_eq, hnp, not_false_eq_true]
    generalize hsz : urb.numberOfPackets * 16 = size
    by_cases hneg : size.toInt < 0
    · rw [if_pos (Or.inl hneg)]
      refine iff_of_false ?_ fun h => ?_
      · show ¬ 0 ≤ -ENOMEM.toInt
        omega
      · omega
    · rw [if_neg (by simpa using hneg)]
      have hsize : size.toInt = size.toNat := toInt_eq_toNat_of_nonneg (by omega)
      rw [hsize]
      by_cases hpos : 0 < size.toNat
      · by_cases hav : size.toNat ≤ (available io).length
        · obtain ⟨hret, hbuf, -⟩ := usbipRecv_of_le hpos hav
          rw [if_neg (by simp [hret]), hbuf]
          split
          · rename_i htotal
            simp [hpipe, htotal]
          · rename_i htotal
            simp [hret, hav, hpos, not_not.mp htotal]
        · rw [if_pos (mt (usbipRecv_ret_eq_iff hpos).mp hav)]
          simp [hpipe, hav]
      · obtain hzero : size.toNat = 0 := by omega
        have hret : (usbipRecv 0 io).ret ≠ 0 := by
          show -EINVAL.toInt ≠ 0
          decide
        rw [hzero, if_pos (by simpa using hret)]
        simp [hpipe]

/-- What has to follow the header of a RET_SUBMIT, when `urb` is the URB that its header was
unpacked to: the data of an IN transfer, no longer than the buffer, then the descriptors of the
isochronous packets, whose lengths add up. -/
def PayloadComplete (io : List Recvmsg) (urb : Urb) : Prop :=
  (urb.pipe.isIn = true → 0 < urb.actualLength.toInt →
    urb.actualLength ≤ urb.transferBufferLength ∧
      urb.actualLength.toNat ≤ (available io).length) ∧
    (urb.pipe.type = .isochronous → urb.numberOfPackets ≠ 0 →
      0 < (urb.numberOfPackets * 16).toInt ∧
        (urb.numberOfPackets * 16).toNat ≤ ((available io).drop (xbuffLength urb)).length ∧
        totalLength (isoReceived urb.numberOfPackets
          (((available io).drop (xbuffLength urb)).take (urb.numberOfPackets * 16).toNat)) =
            urb.actualLength)

instance (io : List Recvmsg) (urb : Urb) : Decidable (PayloadComplete io urb) :=
  inferInstanceAs (Decidable (_ ∧ _))

/-- A payload is accepted when it is complete. -/
theorem payloadComplete_iff {io : List Recvmsg} {urb : Urb} :
    PayloadComplete io urb ↔ 0 ≤ (usbipRecvXbuff .vhci io urb).ret ∧
      0 ≤ (usbipRecvIso true (usbipRecvXbuff .vhci io urb).io
        (usbipRecvXbuff .vhci io urb).urb).ret := by
  unfold PayloadComplete
  rw [← usbipRecvXbuff_ret_nonneg_iff, usbipRecvIso_ret_nonneg_iff]
  refine and_congr_right fun h => ?_
  obtain ⟨buf, hurb⟩ := usbipRecvXbuff_urb io urb
  rw [available_usbipRecvXbuff h, hurb]

end Usbip.Common
