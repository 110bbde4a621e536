import Mathlib

/-!
# Closing up and opening out the extents of a buffer

A buffer may hold data in some extents only, with gaps between them.  `gather` closes the data up
and `spread` opens closed-up data out again, in place: it moves the last extent first, so that
nothing is overwritten that has still to be moved.  `gather_spread` says that this is so whenever
the extents lie one behind the other.
-/

namespace Usbip.Core

variable {α : Type*}

/-- Some of the places of a buffer. -/
structure Extent where
  offset : Nat
  length : Nat
  deriving DecidableEq

/-- The elements at some places. -/
def slice (offset length : Nat) (l : List α) : List α := (l.drop offset).take length

/-- The elements in the extents, without the gaps. -/
def gather (es : List Extent) (l : List α) : List α :=
  es.flatMap fun e => slice e.offset e.length l

/-- How many elements the extents hold. -/
def volume (es : List Extent) : Nat := (es.map Extent.length).sum

/-- Move `n` elements from `src` to `dst`.  The two places may overlap. -/
def move (dst src n : Nat) (l : List α) : List α := l.take dst ++ slice src n l ++ l.drop (dst + n)

/-- Move the elements that stand closed up from `start` on to their extents, the last extent
first. -/
def spread : Nat → List Extent → List α → List α
  | _, [], l => l
  | start, e :: es, l => move e.offset start e.length (spread (start + e.length) es l)

/-- The extents lie one behind the other between `lo` and `hi`. -/
def Separated : Nat → List Extent → Nat → Prop
  | lo, [], hi => lo ≤ hi
  | lo, e :: es, hi => lo ≤ e.offset ∧ Separated (e.offset + e.length) es hi

/-- The volume, extent by extent. -/
@[simp] lemma volume_cons (e : Extent) (es : List Extent) :
    volume (e :: es) = e.length + volume es := rfl

/-- What is gathered, extent by extent. -/
@[simp] lemma gather_cons (e : Extent) (es : List Extent) (l : List α) :
    gather (e :: es) l = slice e.offset e.length l ++ gather es l := rfl

/-! ## Slices -/

/-- A slice inside the list is as long as it says. -/
lemma length_slice {offset length : Nat} {l : List α} (h : offset + length ≤ l.length) :
    (slice offset length l).length = length := by
  simp only [slice, List.length_take, List.length_drop]
  omega

/-- Two slices in a row. -/
lemma slice_append (offset m n : Nat) (l : List α) :
    slice offset m l ++ slice (offset + m) n l = slice offset (m + n) l := by
  unfold slice
  rw [List.take_add, List.drop_drop]

/-- Two slices, the second where the first ends. -/
lemma slice_join {offset m offset' n : Nat} {l : List α} (h : offset + m = offset') :
    slice offset m l ++ slice offset' n l = slice offset (m + n) l := by
  rw [← h, slice_append]

/-- A slice of what follows the first `m` elements. -/
lemma slice_append_right {m : Nat} {l : List α} (h : l.length = m) (offset n : Nat) (l' : List α) :
    slice (m + offset) n (l ++ l') = slice offset n l' := by
  rw [slice, slice, ← h, List.drop_length_add_append]

/-- A slice depends on what comes before its end only. -/
lemma slice_eq_of_take_eq {offset length k : Nat} {l l' : List α} (hk : offset + length ≤ k)
    (h : l.take k = l'.take k) : slice offset length l = slice offset length l' := by
  have hslice : ∀ m : List α, slice offset length m = slice offset length (m.take k) := by
    intro m
    unfold slice
    rw [List.drop_take, List.take_take, Nat.min_eq_left (by omega)]
  rw [hslice l, hslice l', h]

/-- A slice depends on what comes after its start only. -/
lemma slice_eq_of_drop_eq {offset length k : Nat} {l l' : List α} (hk : k ≤ offset)
    (h : l.drop k = l'.drop k) : slice offset length l = slice offset length l' := by
  obtain ⟨d, rfl⟩ := Nat.exists_eq_add_of_le hk
  unfold slice
  rw [← List.drop_drop, ← List.drop_drop, h]

/-! ## Moving -/

section Move

variable {dst src n : Nat} {l : List α}

/-- Moving inside the list changes no length. -/
lemma length_move (hsrc : src + n ≤ l.length) (hdst : dst + n ≤ l.length) :
    (move dst src n l).length = l.length := by
  simp only [move, List.length_append, List.length_take, List.length_drop, length_slice hsrc]
  omega

/-- What comes before the place moved to stays. -/
lemma take_move {k : Nat} (hk : k ≤ dst) (hdst : dst ≤ l.length) :
    (move dst src n l).take k = l.take k := by
  have hlen : (l.take dst).length = dst := by simpa using hdst
  unfold move
  rw [List.append_assoc, List.take_append_of_le_length (by omega), List.take_take,
    Nat.min_eq_left hk]

/-- What comes after the place moved to stays. -/
lemma drop_move (hsrc : src + n ≤ l.length) (hdst : dst ≤ l.length) :
    (move dst src n l).drop (dst + n) = l.drop (dst + n) := by
  have hlen : (l.take dst ++ slice src n l).length = dst + n := by
    rw [List.length_append, length_slice hsrc, List.length_take, Nat.min_eq_left hdst]
  unfold move
  exact List.drop_left' hlen

/-- What was moved is at its new place. -/
lemma slice_move (hsrc : src + n ≤ l.length) (hdst : dst ≤ l.length) :
    slice dst n (move dst src n l) = slice src n l := by
  have hlen : (l.take dst).length = dst := by simpa using hdst
  have hdrop : (move dst src n l).drop dst = slice src n l ++ l.drop (dst + n) := by
    unfold move
    rw [List.append_assoc, List.drop_left' hlen]
  unfold slice at hdrop ⊢
  rw [hdrop]
  exact List.take_left' (length_slice hsrc)

/-- Moving a part onto itself changes nothing. -/
lemma move_self : move dst dst n l = l := by
  unfold move slice
  rw [List.append_assoc, ← List.drop_drop, List.take_append_drop, List.take_append_drop]

end Move

/-! ## Extents one behind the other -/

section Separated

variable {lo hi start : Nat} {es : List Extent} {l : List α}

/-- Extents that do not overlap fit between their bounds. -/
lemma Separated.le (h : Separated lo es hi) : lo + volume es ≤ hi := by
  induction es generalizing lo with
  | nil => exact h
  | cons e es ih =>
      have hes := ih h.2
      have hlo := h.1
      rw [volume_cons]
      omega

/-- The lower bound may be lower. -/
lemma Separated.mono {lo' : Nat} (h : Separated lo es hi) (hle : lo' ≤ lo) :
    Separated lo' es hi := by
  cases es with
  | nil => exact Nat.le_trans hle h
  | cons e es => exact ⟨Nat.le_trans hle h.1, h.2⟩

/-- Every extent is between the bounds. -/
lemma Separated.mem (h : Separated lo es hi) {e : Extent} (he : e ∈ es) :
    lo ≤ e.offset ∧ e.offset + e.length ≤ hi := by
  induction es generalizing lo with
  | nil => cases he
  | cons d es ih =>
      have hes := h.2.le
      have hlo := h.1
      rcases List.mem_cons.mp he with rfl | he
      · omega
      · have := ih h.2 he
        omega

/-- What the extents hold depends on what comes after their start only. -/
lemma gather_eq_of_drop_eq {l' : List α} (h : Separated lo es hi) (hdrop : l.drop lo = l'.drop lo) :
    gather es l = gather es l' := by
  induction es generalizing lo with
  | nil => rfl
  | cons e es ih =>
      have hrest : l.drop (e.offset + e.length) = l'.drop (e.offset + e.length) := by
        obtain ⟨d, hd⟩ := Nat.exists_eq_add_of_le (Nat.le_trans h.1 (Nat.le_add_right _ e.length))
        rw [hd, ← List.drop_drop, ← List.drop_drop, hdrop]
      rw [gather_cons, gather_cons, slice_eq_of_drop_eq h.1 hdrop, ih h.2 hrest]

/-- When two buffers hold the same in all extents together, they do so in each. -/
lemma slice_eq_of_gather_eq {l' : List α} (h : Separated lo es l.length)
    (hlen : l'.length = l.length) (hgather : gather es l = gather es l') {e : Extent}
    (he : e ∈ es) : slice e.offset e.length l = slice e.offset e.length l' := by
  induction es generalizing lo with
  | nil => cases he
  | cons d es ih =>
      have hd : d.offset + d.length ≤ l.length := (h.mem List.mem_cons_self).2
      obtain ⟨hhead, htail⟩ := List.append_inj hgather
        ((length_slice hd).trans (length_slice (by omega)).symm)
      rcases List.mem_cons.mp he with rfl | he
      · exact hhead
      · exact ih h.2 htail he

/-- As much is gathered as the extents hold. -/
lemma length_gather (h : Separated lo es l.length) : (gather es l).length = volume es := by
  induction es generalizing lo with
  | nil => rfl
  | cons e es ih =>
      rw [gather_cons, volume_cons, List.length_append, ih h.2,
        length_slice (h.mem List.mem_cons_self).2]

/-- Extents without gaps hold the buffer as it is. -/
lemma gather_eq_drop (h : Separated lo es l.length) (hfull : lo + volume es = l.length) :
    gather es l = l.drop lo := by
  induction es generalizing lo with
  | nil =>
      simp only [volume, List.map_nil, List.sum_nil, Nat.add_zero] at hfull
      rw [hfull, List.drop_length]
      rfl
  | cons e es ih =>
      rw [volume_cons] at hfull
      have hlo := h.1
      have hle := h.2.le
      obtain rfl : e.offset = lo := by omega
      rw [gather_cons, ih h.2 (by omega), slice, ← List.drop_drop, List.take_append_drop]

/-- Spreading changes no length. -/
lemma length_spread (h : Separated lo es l.length) (hstart : start ≤ lo) :
    (spread start es l).length = l.length := by
  induction es generalizing lo start with
  | nil => rfl
  | cons e es ih =>
      have hlo := h.1
      have he := h.2.le
      have hes : (spread (start + e.length) es l).length = l.length := ih h.2 (by omega)
      rw [spread, length_move (by omega) (by omega), hes]

/-- What comes before the first extent stays. -/
lemma take_spread {k : Nat} (h : Separated lo es l.length) (hstart : start ≤ lo) (hk : k ≤ lo) :
    (spread start es l).take k = l.take k := by
  induction es generalizing lo start with
  | nil => rfl
  | cons e es ih =>
      have hlo := h.1
      have he := h.2.le
      have hlen : (spread (start + e.length) es l).length = l.length :=
        length_spread h.2 (by omega)
      rw [spread, take_move (by omega) (by omega)]
      exact ih h.2 (by omega) (by omega)

/-- Closed-up data arrives in the extents. -/
theorem gather_spread (h : Separated lo es l.length) (hstart : start ≤ lo) :
    gather es (spread start es l) = slice start (volume es) l := by
  induction es generalizing lo start with
  | nil => simp [gather, slice, volume]
  | cons e es ih =>
      have hlo := h.1
      have he := h.2.le
      have hlen : (spread (start + e.length) es l).length = l.length :=
        length_spread h.2 (by omega)
      have hunmoved : slice start e.length (spread (start + e.length) es l) =
          slice start e.length l :=
        slice_eq_of_take_eq (Nat.le_refl _) (take_spread h.2 (by omega) (by omega))
      have hmoved : gather es (spread start (e :: es) l) =
          gather es (spread (start + e.length) es l) :=
        gather_eq_of_drop_eq h.2 (drop_move (by omega) (by omega))
      rw [gather_cons, hmoved, ih h.2 (by omega), spread, slice_move (by omega) (by omega),
        hunmoved, slice_append, volume_cons]

/-- Extents may be moved from the last on one at a time. -/
lemma spread_concat (start : Nat) (es : List Extent) (e : Extent) (l : List α) :
    spread start (es ++ [e]) l =
      spread start es (move e.offset (start + volume es) e.length l) := by
  induction es generalizing start with
  | nil => rfl
  | cons d es ih =>
      rw [List.cons_append, spread, spread, ih, volume_cons, Nat.add_assoc]

/-- Extents that become shorter stay one behind the other. -/
lemma Separated.shrink {ι : Type*} {l : List ι} {f g : ι → Extent}
    (h : Separated lo (l.map f) hi)
    (hle : ∀ i ∈ l, (g i).offset = (f i).offset ∧ (g i).length ≤ (f i).length) :
    Separated lo (l.map g) hi := by
  induction l generalizing lo with
  | nil => exact h
  | cons i l ih =>
      obtain ⟨hoffset, hlength⟩ := hle i List.mem_cons_self
      have hrest := ih h.2 fun j hj => hle j (List.mem_cons_of_mem _ hj)
      refine ⟨hoffset ▸ h.1, hrest.mono ?_⟩
      rw [hoffset]
      exact Nat.add_le_add_left hlength _

end Separated

/-! ## Extents without gaps -/

/-- Each extent starts where the one before it ends. -/
def Contiguous : Nat → List Extent → Prop
  | _, [] => True
  | lo, e :: es => e.offset = lo ∧ Contiguous (lo + e.length) es

instance decidableContiguous : (lo : Nat) → (es : List Extent) → Decidable (Contiguous lo es)
  | _, [] => isTrue trivial
  | lo, e :: es => @instDecidableAnd _ _ _ (decidableContiguous (lo + e.length) es)

/-- Extents in a row do not overlap. -/
lemma Contiguous.separated {lo hi : Nat} {es : List Extent} (h : Contiguous lo es)
    (hle : lo + volume es ≤ hi) : Separated lo es hi := by
  induction es generalizing lo with
  | nil => exact hle
  | cons e es ih =>
      obtain ⟨rfl, hrest⟩ := h
      rw [volume_cons, ← Nat.add_assoc] at hle
      exact ⟨Nat.le_refl _, ih hrest hle⟩

/-- The lengths say where extents without gaps are. -/
lemma Contiguous.eq_of_lengths {lo : Nat} {es es' : List Extent} (h : Contiguous lo es)
    (h' : Contiguous lo es') (hlen : es.map Extent.length = es'.map Extent.length) : es = es' := by
  induction es generalizing lo es' with
  | nil => exact (List.map_eq_nil_iff.mp hlen.symm).symm
  | cons e es ih =>
      obtain ⟨e', es', rfl, hhead, htail⟩ := List.map_eq_cons_iff.mp hlen.symm
      obtain ⟨hoffset, hrest⟩ := h
      obtain ⟨hoffset', hrest'⟩ := h'
      rw [hhead] at hrest'
      have he : e = e' := by
        cases e
        cases e'
        exact congrArg₂ Extent.mk (hoffset.trans hoffset'.symm) hhead.symm
      rw [he, ih hrest hrest' htail.symm]

end Usbip.Core
