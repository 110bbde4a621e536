import Usbip.Core.Spread

/-!
# Copying between buffers

A block of one buffer is copied to a place in another.  Two blocks that follow each other in both
may be copied at once (`copy_copy`), and what has been filled up to some place grows by the block
that is copied there (`take_copy`).
-/

namespace Usbip.Core

variable {α : Type*}

/-- Copy `n` elements of `src`, from `j` on, over those of `dst` from `i` on. -/
def copy (dst : List α) (i : Nat) (src : List α) (j n : Nat) : List α :=
  dst.take i ++ slice j n src ++ dst.drop (i + n)

variable {dst src : List α} {i j m n : Nat}

/-- Copying inside both lists changes no length. -/
lemma length_copy (hdst : i + n ≤ dst.length) (hsrc : j + n ≤ src.length) :
    (copy dst i src j n).length = dst.length := by
  simp only [copy, List.length_append, List.length_take, List.length_drop, length_slice hsrc]
  omega

/-- A block and what follows it. -/
lemma slice_append_drop (j n : Nat) (l : List α) :
    slice j n l ++ l.drop (j + n) = l.drop j := by
  rw [slice, ← List.drop_drop, List.take_append_drop]

/-- The filled part grows by the block. -/
lemma take_copy (hdst : i + n ≤ dst.length) (hsrc : j + n ≤ src.length) :
    (copy dst i src j n).take (i + n) = dst.take i ++ slice j n src := by
  refine List.take_left' ?_
  rw [List.length_append, List.length_take, length_slice hsrc]
  omega

/-- The rest stays. -/
lemma drop_copy (hdst : i + n ≤ dst.length) (hsrc : j + n ≤ src.length) :
    (copy dst i src j n).drop (i + n) = dst.drop (i + n) := by
  refine List.drop_left' ?_
  rw [List.length_append, List.length_take, length_slice hsrc]
  omega

/-- Two blocks that follow each other. -/
lemma copy_copy (hdst : i + m ≤ dst.length) (hsrc : j + m ≤ src.length) :
    copy (copy dst i src j m) (i + m) src (j + m) n = copy dst i src j (m + n) := by
  have hdrop : (copy dst i src j m).drop (i + m + n) = dst.drop (i + (m + n)) := by
    rw [← List.drop_drop, drop_copy hdst hsrc, List.drop_drop, Nat.add_assoc]
  have hcopy : copy (copy dst i src j m) (i + m) src (j + m) n =
      dst.take i ++ slice j m src ++ slice (j + m) n src ++ dst.drop (i + (m + n)) := by
    rw [copy, take_copy hdst hsrc, hdrop]
  rw [hcopy, copy, ← slice_append, ← List.append_assoc]

end Usbip.Core
