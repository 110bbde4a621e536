import Usbip.Core.Machine

/-!
# First matches in a list

The drivers this library is for keep their objects on linked lists and look them up by scanning
from the head: the first element with a given number is unlinked, or changed in place.
`List.find?` with `List.eraseP` is the first, `updateFirst` the second.  Each comes with the
permutation or splitting lemma through which the counting arguments go.
-/

namespace Usbip.Core

variable {α β : Type*}

/-! ## Unlinking the first match -/

/-- The first match together with what is left after unlinking it is the whole list. -/
lemma perm_cons_eraseP_of_find? {p : α → Bool} {l : List α} {a : α} (h : l.find? p = some a) :
    l.Perm (a :: l.eraseP p) := by
  rw [List.find?_eq_some_iff_append] at h
  obtain ⟨hpa, l₁, l₂, rfl, hl₁⟩ := h
  have herase : (l₁ ++ a :: l₂).eraseP p = l₁ ++ l₂ := by
    rw [List.eraseP_append_right _ (by simpa using hl₁), List.eraseP_cons_of_pos hpa]
  rw [herase]
  exact List.perm_middle

/-- What was found is in the list, and so is all the rest. -/
lemma mem_iff_of_find? {p : α → Bool} {l : List α} {a x : α} (h : l.find? p = some a) :
    x ∈ l ↔ x = a ∨ x ∈ l.eraseP p := by
  rw [(perm_cons_eraseP_of_find? h).mem_iff, List.mem_cons]

/-- Unlinking the first match lowers a count by what the match contributes to it. -/
lemma countP_of_find? {p : α → Bool} {l : List α} {a : α} (h : l.find? p = some a)
    (q : α → Bool) : l.countP q = (l.eraseP p).countP q + if q a then 1 else 0 := by
  rw [(perm_cons_eraseP_of_find? h).countP_eq q, List.countP_cons]

/-- No element in front of `a` has its value of `f`. -/
def FirstWith (f : α → β) (a : α) (l : List α) : Prop :=
  ∃ pre post, l = pre ++ a :: post ∧ ∀ x ∈ pre, f x ≠ f a

/-- Searching for a value finds the first with it. -/
lemma find?_eq_some_iff_firstWith [DecidableEq β] {f : α → β} {l : List α} {a : α} {b : β} :
    l.find? (fun x => f x = b) = some a ↔ f a = b ∧ FirstWith f a l := by
  rw [List.find?_eq_some_iff_append, decide_eq_true_iff]
  refine and_congr_right fun hab => ?_
  unfold FirstWith
  simp [hab]

/-- Where values do not repeat, every element is the first with its own. -/
lemma firstWith_of_nodup_map {f : α → β} {l : List α} {a : α} (ha : a ∈ l)
    (hl : (l.map f).Nodup) : FirstWith f a l := by
  obtain ⟨pre, post, rfl⟩ := List.append_of_mem ha
  refine ⟨pre, post, rfl, fun x hx hxa => ?_⟩
  rw [List.map_append, List.nodup_append] at hl
  exact hl.2.2 (f x) (List.mem_map_of_mem hx) (f a) (List.mem_map_of_mem List.mem_cons_self) hxa

/-- Where values do not repeat, an element is known by its own. -/
lemma eq_of_nodup_map {f : α → β} {l : List α} (hl : (l.map f).Nodup) {a b : α} (ha : a ∈ l)
    (hb : b ∈ l) (hab : f a = f b) : a = b :=
  List.inj_on_of_nodup_map hl ha hb hab

/-! ## Taking elements off a list -/

/-- A part of a list without repetitions has none. -/
lemma nodup_of_subperm {l l' : List α} (h : l.Subperm l') (hl : l'.Nodup) : l.Nodup := by
  obtain ⟨m, hm, hsub⟩ := h
  exact hm.nodup_iff.mp (hl.sublist hsub)

/-- A part of a list is mapped to a part of its image. -/
lemma subperm_map {l l' : List α} (h : l.Subperm l') (f : α → β) :
    (l.map f).Subperm (l'.map f) := by
  obtain ⟨m, hm, hsub⟩ := h
  exact ⟨m.map f, hm.map f, hsub.map f⟩

/-- Taking an element off the one of two lists that it is on. -/
lemma perm_cons_erase_erase [DecidableEq α] {l₁ l₂ : List α} {a : α} (hnodup : (l₁ ++ l₂).Nodup)
    (ha : a ∈ l₁ ++ l₂) : (l₁ ++ l₂).Perm (a :: (l₁.erase a ++ l₂.erase a)) := by
  rw [List.nodup_append] at hnodup
  rcases List.mem_append.mp ha with h | h
  · have hnot : a ∉ l₂ := fun h₂ => hnodup.2.2 a h a h₂ rfl
    rw [List.erase_of_not_mem hnot]
    exact (List.perm_cons_erase h).append_right l₂
  · have hnot : a ∉ l₁ := fun h₁ => hnodup.2.2 a h₁ a h rfl
    rw [List.erase_of_not_mem hnot]
    exact ((List.perm_cons_erase h).append_left l₁).trans List.perm_middle

/-! ## Changing the first match -/

/-- Apply `f` to the first element satisfying `p`; `none` when there is no such element. -/
def updateFirst (p : α → Bool) (f : α → α) : List α → Option (List α)
  | [] => none
  | a :: l => if p a then some (f a :: l) else (updateFirst p f l).map (a :: ·)

/-- Nothing is updated exactly when nothing is found. -/
lemma updateFirst_eq_none_iff {p : α → Bool} {f : α → α} {l : List α} :
    updateFirst p f l = none ↔ ∀ a ∈ l, p a = false := by
  induction l with
  | nil => simp [updateFirst]
  | cons a l ih =>
      by_cases ha : p a
      · simp [updateFirst, ha]
      · simp [updateFirst, ha, ih]

/-- The list is split at its first match, which alone is changed. -/
lemma updateFirst_eq_some {p : α → Bool} {f : α → α} {l l' : List α}
    (h : updateFirst p f l = some l') :
    ∃ l₁ a l₂, l = l₁ ++ a :: l₂ ∧ p a = true ∧ (∀ x ∈ l₁, p x = false) ∧
      l' = l₁ ++ f a :: l₂ := by
  induction l generalizing l' with
  | nil => cases h
  | cons a l ih =>
      by_cases ha : p a
      · rw [updateFirst, if_pos ha, Option.some.injEq] at h
        exact ⟨[], a, l, rfl, ha, by simp, h.symm⟩
      · rw [updateFirst, if_neg ha, Option.map_eq_some_iff] at h
        obtain ⟨l'', hl'', rfl⟩ := h
        obtain ⟨l₁, b, l₂, rfl, hb, hl₁, rfl⟩ := ih hl''
        refine ⟨a :: l₁, b, l₂, rfl, hb, ?_, rfl⟩
        intro x hx
        rcases List.mem_cons.mp hx with rfl | hx
        · simpa using ha
        · exact hl₁ x hx

/-- Looking up and changing commutes with a map that respects both. -/
lemma updateFirst_map {p : α → Bool} {f : α → α} {q : β → Bool} {k : β → β} {g : α → β}
    (hp : ∀ a, q (g a) = p a) (hf : ∀ a, p a = true → g (f a) = k (g a)) (l : List α) :
    updateFirst q k (l.map g) = (updateFirst p f l).map (List.map g) := by
  induction l with
  | nil => rfl
  | cons a l ih =>
      by_cases ha : p a
      · simp [updateFirst, hp, ha, hf a ha]
      · simp only [List.map_cons, updateFirst, hp, if_neg ha, ih, Option.map_map]
        rfl

end Usbip.Core
