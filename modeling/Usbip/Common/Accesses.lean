import Usbip.Common.Stream

/-!
# The memory that the receivers touch

`usbip_recv_xbuff`, `usbip_recv_iso` and `usbip_pad_iso` go through pointers to the transfer buffer,
to the array of descriptors of the URB and to the buffer that the descriptors are received in.
Their accesses are listed here, in their order, beside what the functions compute; three lemmas say
when all of them are inside the object that the pointer belongs to.
-/

namespace Usbip.Common

open Usbip.Core

/-- What the pointers point to: `transfer_buffer` and `buff`, in bytes, and `iso_frame_desc`, in
descriptors. -/
inductive Object
  | transferBuffer
  | isoFrameDesc
  | buff
  deriving DecidableEq

/-- A read or a write of `length` units from an offset that may be negative. -/
structure Access where
  object : Object
  offset : Int
  length : Nat
  deriving DecidableEq

/-- The access stays inside its object, when objects are as long as `size` says. -/
def Access.InBounds (size : Object → Nat) (a : Access) : Prop :=
  0 ≤ a.offset ∧ a.offset + a.length ≤ size a.object

instance (size : Object → Nat) (a : Access) : Decidable (a.InBounds size) :=
  inferInstanceAs (Decidable (_ ∧ _))

/-- An access from an index that is not negative. -/
lemma Access.inBounds_natCast {size : Object → Nat} {o : Object} {i n : Nat} :
    (⟨o, i, n⟩ : Access).InBounds size ↔ i + n ≤ size o := by
  show 0 ≤ (i : Int) ∧ (i : Int) + n ≤ size o ↔ _
  omega

/-! ## The accesses -/

/-- The buffer that is handed to `usbip_recv`.
Source: `usbip_common.c`, `usbip_recv_xbuff`. -/
def usbipRecvXbuffAccesses (side : Side) (urb : Urb) : List Access :=
  if urb.pipe.isIn ≠ decide (side = .vhci) then []
  else if (xbuffSize side urb).toInt ≤ 0 then []
  else if urb.transferBufferLength < xbuffSize side urb then []
  else [⟨.transferBuffer, 0, (xbuffSize side urb).toNat⟩]

/-- The buffer that is handed to `usbip_recv`, and for each packet what is read of it and the
descriptor that is written.
Source: `usbip_common.c`, `usbip_recv_iso`. -/
def usbipRecvIsoAccesses (allocOk : Bool) (io : List Recvmsg) (urb : Urb) : List Access :=
  let size := urb.numberOfPackets * 16
  if urb.pipe.type ≠ .isochronous ∨ urb.numberOfPackets = 0 then []
  else if size.toInt < 0 ∨ ¬ allocOk then []
  else
    let r := usbipRecv size.toNat io
    ⟨.buff, 0, size.toNat⟩ ::
      if r.ret ≠ size.toInt then []
      else (List.range urb.numberOfPackets.toInt.toNat).flatMap fun i =>
        [⟨.buff, (i * 16 : Nat), 16⟩, ⟨.isoFrameDesc, i, 1⟩]

/-- The accesses of both, as far as they come. -/
def recvPayloadAccesses (side : Side) (kz : Kzalloc) (io : List Recvmsg) (urb : Urb) :
    List Access :=
  let r := usbipRecvXbuff side io urb
  usbipRecvXbuffAccesses side urb ++
    if r.ret < 0 then []
    else usbipRecvIsoAccesses (kz.ok .recvIso (sizeT (r.urb.numberOfPackets * 16).toInt)) r.io r.urb

/-- The loop of `usbip_pad_iso` from packet `i` down to packet 1. -/
def usbipPadIsoLoopAccesses (iso : List IsoPacketDescriptor) : Nat → BitVec 32 → List Access
  | 0, _ => []
  | i + 1, actualoffset =>
      ⟨.isoFrameDesc, (i + 1 : Nat), 1⟩ ::
        match iso[i + 1]? with
        | none => []
        | some d =>
            let actualoffset := actualoffset - d.actualLength
            ⟨.transferBuffer, d.offset.toNat, d.actualLength.toNat⟩ ::
              ⟨.transferBuffer, actualoffset.toInt, d.actualLength.toNat⟩ ::
              usbipPadIsoLoopAccesses iso i actualoffset

/-- Source: `usbip_common.c`, `usbip_pad_iso`. -/
def usbipPadIsoAccesses (urb : Urb) : List Access :=
  if PadSkips urb then []
  else usbipPadIsoLoopAccesses urb.isoFrameDesc (urb.numberOfPackets.toInt - 1).toNat
    urb.actualLength

/-! ## The descriptors in a buffer -/

/-- A size that is positive is received, or there is an error. -/
lemma usbipRecv_ret_eq_toInt_iff (io : List Recvmsg) {n : BitVec 32} (hpos : 0 ≤ n.toInt) :
    (usbipRecv n.toNat io).ret = n.toInt ↔ 0 < n.toInt ∧ n.toNat ≤ (available io).length := by
  have hnat := toInt_eq_toNat_of_nonneg hpos
  by_cases hzero : n.toNat = 0
  · refine iff_of_false ?_ fun h => ?_
    · have herr : (usbipRecv 0 io).ret = -EINVAL.toInt := rfl
      rw [hnat, hzero, herr]
      decide
    · omega
  · rw [hnat, usbipRecv_ret_eq_iff (by omega)]
    omega

/-- The loop stays in the buffer as long as the size has not wrapped around. -/
lemma mul_le_size_iff {np : BitVec 32} (hpos : 0 < (np * 16).toInt) :
    np.toInt.toNat * 16 ≤ (np * 16).toNat ↔ np.toInt < 2 ^ 27 := by
  have hnat := toInt_eq_toNat_of_nonneg (Int.le_of_lt hpos)
  have hmul : (np * 16).toNat = np.toNat * 16 % 2 ^ 32 := BitVec.toNat_mul np 16
  have hlt := BitVec.toInt_lt (x := np * 16)
  rw [BitVec.toInt_eq_toNat_cond]
  split <;> omega

/-- The first word of a buffer that is long enough for one. -/
lemma exists_word {b : List Byte} (h : 4 ≤ b.length) :
    ∃ b₀ b₁ b₂ b₃ rest, b = b₀ :: b₁ :: b₂ :: b₃ :: rest := by
  rcases b with _ | ⟨b₀, _ | ⟨b₁, _ | ⟨b₂, _ | ⟨b₃, rest⟩⟩⟩⟩
  case cons.cons.cons.cons => exact ⟨b₀, b₁, b₂, b₃, rest, rfl⟩
  all_goals exact absurd h (by simp)

/-- A descriptor is 16 bytes. -/
lemma length_isoDescriptors (b : List Byte) : (isoDescriptors b).length = b.length / 16 := by
  fun_induction isoDescriptors b with
  | case1 _ _ _ _ _ _ _ _ _ _ _ _ _ _ _ _ rest ih =>
      simp only [List.length_cons, ih]
      omega
  | case2 b hne =>
      have hshort : b.length < 16 := by
        by_contra hlong
        obtain ⟨o₀, o₁, o₂, o₃, b', rfl⟩ := exists_word (b := b) (by omega)
        simp only [List.length_cons] at hlong
        obtain ⟨l₀, l₁, l₂, l₃, b'', rfl⟩ := exists_word (b := b') (by omega)
        simp only [List.length_cons] at hlong
        obtain ⟨a₀, a₁, a₂, a₃, b', rfl⟩ := exists_word (b := b'') (by omega)
        simp only [List.length_cons] at hlong
        obtain ⟨s₀, s₁, s₂, s₃, rest, rfl⟩ := exists_word (b := b') (by omega)
        exact hne _ _ _ _ _ _ _ _ _ _ _ _ _ _ _ _ _ rfl
      rw [Nat.div_eq_of_lt hshort]
      rfl

/-- As many descriptors are received as there are packets. -/
lemma length_isoReceived {np : BitVec 32} {b : List Byte} (h : np.toInt.toNat * 16 ≤ b.length) :
    (isoReceived np b).length = np.toInt.toNat := by
  rw [isoReceived, List.length_take, length_isoDescriptors]
  omega

/-! ## When they are in bounds -/

section InBounds

variable {size : Object → Nat} {side : Side} {urb : Urb}

/-- The announced length is checked. -/
lemma inBounds_usbipRecvXbuff (hsize : 0 < (xbuffSize side urb).toInt →
      urb.transferBufferLength.toNat ≤ size .transferBuffer) :
    ∀ a ∈ usbipRecvXbuffAccesses side urb, a.InBounds size := by
  unfold usbipRecvXbuffAccesses
  split_ifs with hdir hpos hfit
  · simp
  · simp
  · simp
  · intro a ha
    obtain rfl := List.mem_singleton.mp ha
    have hle := BitVec.le_def.mp (BitVec.not_lt.mp hfit)
    have hroom := hsize (by omega)
    exact (Access.inBounds_natCast (i := 0)).mpr (by omega)

/-- The loop over the packets goes as far as `np` says. -/
lemma inBounds_packets_iff {n : Nat} :
    (∀ a ∈ (List.range n).flatMap fun i =>
        [(⟨.buff, (i * 16 : Nat), 16⟩ : Access), ⟨.isoFrameDesc, i, 1⟩], a.InBounds size) ↔
      n * 16 ≤ size .buff ∧ n ≤ size .isoFrameDesc := by
  simp only [List.mem_flatMap, List.mem_range, forall_exists_index, and_imp]
  constructor
  · intro h
    rcases n with _ | n
    · simp
    · have hread := Access.inBounds_natCast.mp (h _ n (Nat.lt_succ_self n) List.mem_cons_self)
      have hwrite := Access.inBounds_natCast.mp
        (h _ n (Nat.lt_succ_self n) (List.mem_cons_of_mem _ List.mem_cons_self))
      omega
  · rintro ⟨hread, hwrite⟩ a i hi ha
    rcases List.mem_pair.mp ha with rfl | rfl
    · exact Access.inBounds_natCast.mpr (by omega)
    · exact Access.inBounds_natCast.mpr (by omega)

/-- When there are no more packets than descriptors. -/
lemma inBounds_usbipRecvIso {allocOk : Bool} {io : List Recvmsg}
    (hlt : urb.numberOfPackets.toInt < 2 ^ 27)
    (hdesc : urb.numberOfPackets.toInt ≤ size .isoFrameDesc)
    (hbuff : size .buff = (urb.numberOfPackets * 16).toNat) :
    ∀ a ∈ usbipRecvIsoAccesses allocOk io urb, a.InBounds size := by
  have hwhole : (⟨.buff, 0, (urb.numberOfPackets * 16).toNat⟩ : Access).InBounds size :=
    (Access.inBounds_natCast (i := 0)).mpr (by omega)
  unfold usbipRecvIsoAccesses
  dsimp only
  split_ifs with hskip halloc hret
  · simp
  · simp
  · simpa using hwhole
  · have hpos : 0 ≤ (urb.numberOfPackets * 16).toInt := by
      simpa using (not_or.mp halloc).1
    obtain ⟨hpos, -⟩ := (usbipRecv_ret_eq_toInt_iff io hpos).mp (not_not.mp hret)
    rw [List.forall_mem_cons, inBounds_packets_iff, hbuff, mul_le_size_iff hpos, Int.toNat_le]
    exact ⟨hwhole, hlt, hdesc⟩

end InBounds

/-- The packets after the first fit in a buffer, where they are and where they are moved to, and
the offset of each of them is an `int`. -/
def PacketsFit (length : Nat) (iso : List IsoPacketDescriptor) : Prop :=
  ∀ i d, 0 < i → iso[i]? = some d →
    d.offset.toNat + d.actualLength.toNat ≤ length ∧
      volume (extents (iso.take i)) < 2 ^ 31 ∧ volume (extents (iso.take (i + 1))) ≤ length

section Pad

variable {size : Object → Nat} {iso rest : List IsoPacketDescriptor}

/-- The next packet adds its actual length. -/
lemma volume_take_succ {i : Nat} {d : IsoPacketDescriptor} (h : iso[i]? = some d) :
    volume (extents (iso.take (i + 1))) =
      volume (extents (iso.take i)) + d.actualLength.toNat := by
  rw [List.take_add_one, h, extents_append]
  simp [volume, extents]

/-- The offset of a packet in the data received, as the loop computes it. -/
lemma ofNat_volume_sub {i : Nat} {d : IsoPacketDescriptor} (h : iso[i]? = some d) :
    BitVec.ofNat 32 (volume (extents (iso.take (i + 1)))) - d.actualLength =
      BitVec.ofNat 32 (volume (extents (iso.take i))) := by
  rw [volume_take_succ h, BitVec.ofNat_add, BitVec.ofNat_toNat, BitVec.setWidth_eq,
    BitVec.add_sub_cancel]

/-- The accesses of the loop, by the packets it moves. -/
lemma inBounds_padLoop_iff (k : Nat) (hk : k < iso.length) (hiso : iso.length ≤ size .isoFrameDesc) :
    (∀ a ∈ usbipPadIsoLoopAccesses (iso ++ rest) k
        (BitVec.ofNat 32 (volume (extents (iso.take (k + 1))))), a.InBounds size) ↔
      ∀ i d, 0 < i → i ≤ k → iso[i]? = some d →
        (⟨.transferBuffer, d.offset.toNat, d.actualLength.toNat⟩ : Access).InBounds size ∧
          (⟨.transferBuffer, (BitVec.ofNat 32 (volume (extents (iso.take i)))).toInt,
            d.actualLength.toNat⟩ : Access).InBounds size := by
  induction k with
  | zero =>
      refine iff_of_true (by simp [usbipPadIsoLoopAccesses]) fun i d hpos hle => ?_
      omega
  | succ k ih =>
      have hd : iso[k + 1]? = some iso[k + 1] := List.getElem?_eq_getElem hk
      have hget : (iso ++ rest)[k + 1]? = some iso[k + 1] := by
        rw [List.getElem?_append_left hk, hd]
      have hindex : (⟨.isoFrameDesc, (k + 1 : Nat), 1⟩ : Access).InBounds size :=
        Access.inBounds_natCast.mpr (by omega)
      rw [usbipPadIsoLoopAccesses, hget]
      dsimp only
      rw [ofNat_volume_sub hd, List.forall_mem_cons, List.forall_mem_cons, List.forall_mem_cons,
        ih (by omega)]
      constructor
      · rintro ⟨-, hdst, hsrc, hrest⟩ i d hpos hle hi
        rcases Nat.lt_or_eq_of_le hle with hlt | rfl
        · exact hrest i d hpos (by omega) hi
        · obtain rfl := Option.some.inj (hd.symm.trans hi)
          exact ⟨hdst, hsrc⟩
      · intro h
        obtain ⟨hdst, hsrc⟩ := h (k + 1) _ (Nat.succ_pos k) (Nat.le_refl _) hd
        exact ⟨hindex, hdst, hsrc, fun i d hpos hle => h i d hpos (by omega)⟩

/-- An offset as the `int` it is kept in. -/
lemma toInt_ofNat_nonneg_iff {n : Nat} (h : n < 2 ^ 32) :
    0 ≤ (BitVec.ofNat 32 n).toInt ↔ n < 2 ^ 31 := by
  rw [BitVec.toInt_eq_toNat_cond, BitVec.toNat_ofNat, Nat.mod_eq_of_lt h]
  split <;> omega

/-- A small number is the same as an `int`. -/
lemma toInt_ofNat_of_lt {n : Nat} (h : n < 2 ^ 31) : (BitVec.ofNat 32 n).toInt = n := by
  rw [BitVec.toInt_eq_toNat_cond, BitVec.toNat_ofNat, Nat.mod_eq_of_lt (by omega),
    if_pos (by omega)]

/-- No sum of lengths wraps around as long as the packets before fit. -/
lemma packetsFit_iff (hlt : size .transferBuffer < 2 ^ 32) :
    (∀ i d, 0 < i → iso[i]? = some d →
        (⟨.transferBuffer, d.offset.toNat, d.actualLength.toNat⟩ : Access).InBounds size ∧
          (⟨.transferBuffer, (BitVec.ofNat 32 (volume (extents (iso.take i)))).toInt,
            d.actualLength.toNat⟩ : Access).InBounds size) ↔
      PacketsFit (size .transferBuffer) iso := by
  constructor
  · intro h
    have hsrc : ∀ i d, 0 < i → iso[i]? = some d → volume (extents (iso.take i)) < 2 ^ 32 →
        volume (extents (iso.take i)) < 2 ^ 31 ∧
          volume (extents (iso.take (i + 1))) ≤ size .transferBuffer := by
      intro i d hpos hi hsum
      obtain ⟨-, hlow, hhigh⟩ := h i d hpos hi
      have hint := (toInt_ofNat_nonneg_iff hsum).mp hlow
      dsimp only at hhigh
      rw [toInt_ofNat_of_lt hint] at hhigh
      refine ⟨hint, ?_⟩
      rw [volume_take_succ hi]
      omega
    have hsum : ∀ i, i < iso.length → volume (extents (iso.take (i + 1))) < 2 ^ 32 := by
      intro i
      induction i with
      | zero =>
          intro hi
          rw [volume_take_succ (List.getElem?_eq_getElem hi)]
          exact (Nat.zero_add _).trans_lt iso[0].actualLength.isLt
      | succ i ih =>
          intro hi
          exact Nat.lt_of_le_of_lt
            (hsrc (i + 1) _ (Nat.succ_pos i) (List.getElem?_eq_getElem hi) (ih (by omega))).2 hlt
    intro i d hpos hi
    obtain ⟨hdst, -⟩ := h i d hpos hi
    have hlength : i < iso.length := (List.getElem?_eq_some_iff.mp hi).1
    refine ⟨Access.inBounds_natCast.mp hdst, hsrc i d hpos hi ?_⟩
    have hprev := hsum (i - 1) (by omega)
    rwa [Nat.sub_add_cancel hpos] at hprev
  · intro h i d hpos hi
    obtain ⟨hdst, hlow, hhigh⟩ := h i d hpos hi
    rw [volume_take_succ hi] at hhigh
    rw [toInt_ofNat_of_lt hlow]
    exact ⟨Access.inBounds_natCast.mpr hdst, Access.inBounds_natCast.mpr hhigh⟩

/-- The accesses of `usbip_pad_iso`, when the descriptors it goes over have been received and their
lengths add up. -/
lemma inBounds_usbipPadIso_iff {urb : Urb}
    (hsize : size .transferBuffer = urb.transferBufferLength.toNat)
    (hurb : urb.isoFrameDesc = iso ++ rest) (hnp : urb.numberOfPackets.toInt.toNat = iso.length)
    (hiso : iso.length ≤ size .isoFrameDesc) (htotal : totalLength iso = urb.actualLength)
    (hisoc : urb.pipe.type = .isochronous) (hzero : urb.numberOfPackets ≠ 0) :
    (∀ a ∈ usbipPadIsoAccesses urb, a.InBounds size) ↔
      (urb.actualLength ≠ 0 → urb.actualLength ≠ urb.transferBufferLength →
        PacketsFit urb.transferBufferLength.toNat iso) := by
  unfold usbipPadIsoAccesses
  by_cases hskip : PadSkips urb
  · rw [if_pos hskip]
    refine iff_of_true (by simp) fun hal hne => ?_
    rcases hskip with h | h | h | h
    · exact absurd hisoc h
    · exact absurd h hzero
    · exact absurd h hal
    · exact absurd h hne
  · obtain ⟨-, -, hal, hne⟩ := by simpa only [PadSkips, not_or] using hskip
    have hlt : size .transferBuffer < 2 ^ 32 := by
      rw [hsize]
      exact urb.transferBufferLength.isLt
    have hlast : (urb.numberOfPackets.toInt - 1).toNat = iso.length - 1 := by omega
    have hfit : (urb.actualLength ≠ 0 → urb.actualLength ≠ urb.transferBufferLength →
        PacketsFit urb.transferBufferLength.toNat iso) ↔
          PacketsFit urb.transferBufferLength.toNat iso :=
      ⟨fun h => h hal hne, fun h _ _ => h⟩
    rw [if_neg hskip, hurb, hlast, hfit, ← hsize, ← packetsFit_iff hlt]
    rcases hlen : iso.length with _ | n
    · obtain rfl := List.length_eq_zero_iff.mp hlen
      refine iff_of_true (by simp [usbipPadIsoLoopAccesses]) fun i d _ hi => ?_
      cases hi
    · have hall : iso.take (n + 1) = iso := by rw [← hlen, List.take_length]
      have hoffset : urb.actualLength = BitVec.ofNat 32 (volume (extents (iso.take (n + 1)))) := by
        rw [hall, ← htotal, totalLength_eq]
      rw [Nat.add_sub_cancel, hoffset, inBounds_padLoop_iff n (by omega) hiso]
      refine ⟨fun h i d hpos hi => h i d hpos ?_ hi, fun h i d hpos _ hi => h i d hpos hi⟩
      have hlength := (List.getElem?_eq_some_iff.mp hi).1
      omega

end Pad

end Usbip.Common
