import Usbip.Common.Wire

/-!
# The padding of isochronous packets

The packets of an isochronous URB lie at their offsets in the transfer buffer, with gaps when the
device has sent less than it might.  The sender leaves the gaps out and `usbip_pad_iso` restores
them, in the buffer itself.
-/

namespace Usbip.Common

open Usbip.Core

/-- The places of the packets' data. -/
def extents (iso : List IsoPacketDescriptor) : List Extent :=
  iso.map fun d => ⟨d.offset.toNat, d.actualLength.toNat⟩

/-- The extents, packet by packet. -/
@[simp] lemma extents_cons (d : IsoPacketDescriptor) (iso : List IsoPacketDescriptor) :
    extents (d :: iso) = ⟨d.offset.toNat, d.actualLength.toNat⟩ :: extents iso := rfl

/-- The extents of two lists of packets. -/
lemma extents_append (iso iso' : List IsoPacketDescriptor) :
    extents (iso ++ iso') = extents iso ++ extents iso' :=
  List.map_append

/-- The `int` that the packets are added up in. -/
lemma totalLength_eq (iso : List IsoPacketDescriptor) :
    totalLength iso = BitVec.ofNat 32 (volume (extents iso)) := by
  induction iso with
  | nil => rfl
  | cons d iso ih =>
      have hcons : totalLength (d :: iso) = d.actualLength + totalLength iso := rfl
      rw [hcons, ih, extents_cons, volume_cons, BitVec.ofNat_add, BitVec.ofNat_toNat,
        BitVec.setWidth_eq]

/-- The loop moves the packets after the first, the last of them first. -/
lemma usbipPadIsoLoop_eq_spread (d : IsoPacketDescriptor) (iso : List IsoPacketDescriptor)
    (k : Nat) (hk : k ≤ iso.length) (offset : BitVec 32) (buf : List Byte)
    (hoffset : offset.toNat = d.actualLength.toNat + volume (extents (iso.take k))) :
    usbipPadIsoLoop (d :: iso) k offset buf =
      spread d.actualLength.toNat (extents (iso.take k)) buf := by
  induction k generalizing offset buf with
  | zero => rfl
  | succ k ih =>
      have hlt : k < iso.length := hk
      have htake : extents (iso.take (k + 1)) = extents (iso.take k) ++ extents [iso[k]] := by
        rw [← extents_append, List.take_concat_get' iso k hlt]
      have hvolume : volume (extents (iso.take (k + 1))) =
          volume (extents (iso.take k)) + iso[k].actualLength.toNat := by
        rw [htake]
        simp [volume, extents]
      have hsub : (offset - iso[k].actualLength).toNat =
          d.actualLength.toNat + volume (extents (iso.take k)) := by
        rw [BitVec.toNat_sub_of_le (BitVec.le_def.mpr (by omega))]
        omega
      rw [usbipPadIsoLoop, List.getElem?_cons_succ, List.getElem?_eq_getElem hlt]
      dsimp only
      rw [ih (Nat.le_of_lt hlt) _ _ hsub, htake, hsub]
      exact (spread_concat _ _ ⟨_, _⟩ buf).symm

/-- What `usbip_pad_iso` relies on: the packets lie one behind the other in the buffer, and the
data received is theirs. -/
structure Padded (urb : Urb) : Prop where
  packets : urb.isoFrameDesc.length = urb.numberOfPackets.toNat
  lt : urb.isoFrameDesc.length < 2 ^ 31
  buffer : urb.transferBuffer.length = urb.transferBufferLength.toNat
  start : ∀ d ∈ urb.isoFrameDesc.head?, d.offset = 0
  separated : Separated 0 (extents urb.isoFrameDesc) urb.transferBufferLength.toNat
  total : volume (extents urb.isoFrameDesc) = urb.actualLength.toNat

/-- Whether `usbip_pad_iso` returns before its loop. -/
def PadSkips (urb : Urb) : Prop :=
  urb.pipe.type ≠ .isochronous ∨ urb.numberOfPackets = 0 ∨ urb.actualLength = 0 ∨
    urb.actualLength = urb.transferBufferLength

instance (urb : Urb) : Decidable (PadSkips urb) := inferInstanceAs (Decidable (_ ∨ _))

/-- Where `usbip_pad_iso` returns early, it does nothing. -/
lemma usbipPadIso_of_skips {urb : Urb} (h : PadSkips urb) : usbipPadIso urb = urb :=
  if_pos h

/-- The buffer that the loop leaves. -/
lemma usbipPadIso_of_loop {urb : Urb} (h : ¬ PadSkips urb) :
    usbipPadIso urb = { urb with
      transferBuffer := usbipPadIsoLoop urb.isoFrameDesc (urb.numberOfPackets.toInt - 1).toNat
        urb.actualLength urb.transferBuffer } :=
  if_neg h

/-- The first packet is where it belongs, so that the loop might as well move it too. -/
lemma usbipPadIso_of_not_skips {urb : Urb} (h : Padded urb) (hpad : ¬ PadSkips urb) :
    (usbipPadIso urb).transferBuffer =
      spread 0 (extents urb.isoFrameDesc) urb.transferBuffer := by
  obtain ⟨d, iso, hiso⟩ : ∃ d iso, urb.isoFrameDesc = d :: iso := by
    apply List.exists_cons_of_ne_nil
    intro hnil
    refine hpad (Or.inr (Or.inl (BitVec.eq_of_toNat_eq ?_)))
    rw [← h.packets, hnil]
    rfl
  have hlen : urb.numberOfPackets.toNat = iso.length + 1 := by rw [← h.packets, hiso]; rfl
  have hlast : (urb.numberOfPackets.toInt - 1).toNat = iso.length := by
    have hlt := h.lt
    rw [h.packets] at hlt
    rw [BitVec.toInt_eq_toNat_of_lt (by omega), hlen]
    omega
  have hoffset : d.offset.toNat = 0 := by
    rw [h.start d (by rw [hiso]; rfl)]
    rfl
  have htotal := h.total
  rw [hiso, extents_cons, volume_cons] at htotal
  rw [usbipPadIso_of_loop hpad]
  dsimp only
  rw [hlast, hiso, usbipPadIsoLoop_eq_spread d iso iso.length (Nat.le_refl _) _ _
    (by rw [List.take_length]; exact htotal.symm), List.take_length, extents_cons, spread,
    hoffset, move_self, Nat.zero_add]

/-- Padding moves bytes inside the buffer. -/
lemma length_usbipPadIso {urb : Urb} (h : Padded urb) :
    (usbipPadIso urb).transferBuffer.length = urb.transferBuffer.length := by
  have hsep := h.separated
  rw [← h.buffer] at hsep
  by_cases hpad : PadSkips urb
  · rw [usbipPadIso_of_skips hpad]
  · rw [usbipPadIso_of_not_skips h hpad, length_spread hsep (Nat.le_refl 0)]

/-- The data received is in its packets afterwards, whichever way the function returns. -/
theorem gather_usbipPadIso {urb : Urb} (hisoc : urb.pipe.type = .isochronous) (h : Padded urb) :
    gather (extents urb.isoFrameDesc) (usbipPadIso urb).transferBuffer =
      urb.transferBuffer.take urb.actualLength.toNat := by
  have hsep := h.separated
  rw [← h.buffer] at hsep
  by_cases hpad : PadSkips urb
  · rw [usbipPadIso_of_skips hpad, ← h.total]
    rcases hpad with hne | hnp | hzero | hfull
    · exact absurd hisoc hne
    · have hnil : urb.isoFrameDesc = [] := by
        rw [← List.length_eq_zero_iff, h.packets, hnp]
        rfl
      rw [hnil]
      rfl
    · have hvol : volume (extents urb.isoFrameDesc) = 0 := by rw [h.total, hzero]; rfl
      have hlen := length_gather hsep
      rw [hvol] at hlen ⊢
      rw [List.length_eq_zero_iff.mp hlen, List.take_zero]
    · have hvol : 0 + volume (extents urb.isoFrameDesc) = urb.transferBuffer.length := by
        rw [h.total, hfull, h.buffer, Nat.zero_add]
      rw [gather_eq_drop hsep hvol, List.drop_zero, ← Nat.zero_add (volume _), hvol,
        List.take_length]
  · rw [usbipPadIso_of_not_skips h hpad, gather_spread hsep (Nat.le_refl 0), slice,
      List.drop_zero, h.total]

end Usbip.Common
