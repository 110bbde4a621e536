import Usbip.Core.Log

/-!
# Objects in custody

A component is handed objects and has to return each of them once.  Between the two an object is
in one place: on a list of the component, or in the hands of the context that works on it.  The
log records what was accepted and what was returned, with whatever the return says.

* `Custody.Sound places log`: the objects accepted and not returned are those in `places`, each in
  one place; and the log never returns an object twice for one acceptance (`Balanced`).
* `Linked owner ptr l`: the entries on the list `l` and the pointers of their objects to them say
  the same.

The theorems are one for each thing that can happen to an object: it is accepted, moved, returned.
-/

namespace Usbip.Core

variable {υ ρ π : Type*}

/-- An entry of the log. -/
inductive Event (υ ρ : Type*)
  | accepted (u : υ)
  | returned (u : υ) (r : ρ)
  deriving DecidableEq

namespace Custody

variable [DecidableEq υ]

def accepts (u : υ) : Event υ ρ → Bool
  | .accepted v => v = u
  | .returned _ _ => false

def returns (u : υ) : Event υ ρ → Bool
  | .accepted _ => false
  | .returned v _ => v = u

/-- Accepted more often than returned. -/
def Held (log : List (Event υ ρ)) (u : υ) : Prop :=
  log.countP (returns u) < log.countP (accepts u)

instance (log : List (Event υ ρ)) (u : υ) : Decidable (Held log u) :=
  inferInstanceAs (Decidable (_ < _))

/-- An object is accepted when it is not held, and returned when it is. -/
def Balanced (log : List (Event υ ρ)) : Prop :=
  Justified (fun pre e => match e with
    | .accepted u => pre.countP (accepts u) = pre.countP (returns u)
    | .returned u _ => pre.countP (accepts u) = pre.countP (returns u) + 1) log

/-- The objects held are those in `places`, and each is in one place. -/
structure Sound (places : List υ) (log : List (Event υ ρ)) : Prop where
  nodup : places.Nodup
  count_eq : ∀ u, log.countP (accepts u) = log.countP (returns u) + places.count u
  balanced : Balanced log

variable {places places' : List υ} {log : List (Event υ ρ)} {u : υ}

/-- Nothing was accepted and nothing is held. -/
lemma sound_empty : Sound ([] : List υ) ([] : List (Event υ ρ)) :=
  ⟨List.nodup_nil, fun _ => rfl, justified_nil _⟩

/-- Objects may change places. -/
theorem Sound.perm (h : Sound places log) (hp : places.Perm places') : Sound places' log := by
  refine ⟨hp.nodup_iff.mp h.nodup, fun u => ?_, h.balanced⟩
  rw [h.count_eq u, hp.count_eq u]

/-- What is held is what was accepted and not returned. -/
theorem Sound.held_iff (h : Sound places log) : Held log u ↔ u ∈ places := by
  rw [Held, h.count_eq u, ← List.count_pos_iff]
  omega

/-- Accepting something that is nowhere. -/
theorem Sound.accept (h : Sound places log) (hu : u ∉ places) :
    Sound (u :: places) (log ++ [.accepted u]) := by
  refine ⟨List.nodup_cons.mpr ⟨hu, h.nodup⟩, fun v => ?_, justified_snoc.mpr ⟨h.balanced, ?_⟩⟩
  · have hv := h.count_eq v
    simp only [List.countP_append, List.countP_singleton, accepts, returns, List.count_cons,
      beq_iff_eq, decide_eq_true_eq]
    simp only [Bool.false_eq_true, if_false]
    omega
  · have := h.count_eq u
    rw [List.count_eq_zero_of_not_mem hu] at this
    exact this

/-- Returning something that is in one place. -/
theorem Sound.return (h : Sound places log) (hp : places.Perm (u :: places')) (r : ρ) :
    Sound places' (log ++ [.returned u r]) := by
  obtain ⟨hnodup, hcount, hbal⟩ := h.perm hp
  rw [List.nodup_cons] at hnodup
  refine ⟨hnodup.2, fun v => ?_, justified_snoc.mpr ⟨hbal, ?_⟩⟩
  · have hv := hcount v
    simp only [List.count_cons, beq_iff_eq] at hv
    simp only [List.countP_append, List.countP_singleton, accepts, returns, decide_eq_true_eq]
    simp only [Bool.false_eq_true, if_false]
    omega
  · have hu := hcount u
    rw [List.count_cons_self, List.count_eq_zero_of_not_mem hnodup.1] at hu
    exact hu

/-- An object is returned at most once for each time it is accepted. -/
theorem Balanced.returns_le {pre : List (Event υ ρ)} (h : Balanced pre) (u : υ) :
    pre.countP (returns u) ≤ pre.countP (accepts u) ∧
      pre.countP (accepts u) ≤ pre.countP (returns u) + 1 := by
  induction pre using List.reverseRecOn with
  | nil => exact ⟨Nat.le_refl 0, Nat.zero_le _⟩
  | append_singleton pre e ih =>
      obtain ⟨hpre, he⟩ := justified_snoc.mp h
      have ih := ih hpre
      match e with
      | .accepted v =>
          by_cases hv : v = u
          · subst hv
            simp [List.countP_append, accepts, returns, he]
          · simpa [List.countP_append, accepts, returns, hv] using ih
      | .returned v r =>
          by_cases hv : v = u
          · subst hv
            simp [List.countP_append, accepts, returns, he]
          · simpa [List.countP_append, accepts, returns, hv] using ih

end Custody

/-! ## Entries and the pointers to them -/

/-- Each object has at most one entry on the list `l`, and `ptr` is the map from an object to its
entry. -/
structure Linked (owner : π → υ) (ptr : υ → Option π) (l : List π) : Prop where
  nodup : (l.map owner).Nodup
  ptr_iff : ∀ u p, ptr u = some p ↔ p ∈ l ∧ owner p = u

namespace Linked

variable {owner : π → υ} {ptr : υ → Option π} {l l' : List π} {p : π}

/-- No entry and no pointer. -/
lemma empty : Linked owner (fun _ => none) [] :=
  ⟨List.nodup_nil, fun _ _ => by simp⟩

/-- The order of the entries does not matter. -/
lemma perm (h : Linked owner ptr l) (hp : l.Perm l') : Linked owner ptr l' :=
  ⟨(hp.map owner).nodup_iff.mp h.nodup, fun u p => by rw [h.ptr_iff, hp.mem_iff]⟩

/-- The pointer of the owner of an entry leads to it. -/
lemma ptr_of_mem (h : Linked owner ptr l) (hp : p ∈ l) : ptr (owner p) = some p :=
  (h.ptr_iff _ _).mpr ⟨hp, rfl⟩

/-- A pointer is NULL exactly when its owner has no entry. -/
lemma ptr_eq_none_iff (h : Linked owner ptr l) {u : υ} : ptr u = none ↔ u ∉ l.map owner := by
  rw [Option.eq_none_iff_forall_ne_some]
  simp only [ne_eq, h.ptr_iff, List.mem_map, not_exists]

variable [DecidableEq υ]

/-- A new entry with a pointer to it. -/
theorem insert (h : Linked owner ptr l) (hp : owner p ∉ l.map owner) :
    Linked owner (Function.update ptr (owner p) (some p)) (p :: l) := by
  refine ⟨List.nodup_cons.mpr ⟨hp, h.nodup⟩, fun u q => ?_⟩
  by_cases hu : u = owner p
  · subst hu
    rw [Function.update_self, Option.some.injEq, List.mem_cons]
    constructor
    · rintro rfl
      exact ⟨Or.inl rfl, rfl⟩
    · rintro ⟨rfl | hq, hown⟩
      · rfl
      · exact absurd (hown ▸ List.mem_map_of_mem hq) hp
  · rw [Function.update_of_ne hu, h.ptr_iff, List.mem_cons]
    constructor
    · exact fun ⟨hq, hown⟩ => ⟨Or.inr hq, hown⟩
    · rintro ⟨rfl | hq, hown⟩
      · exact absurd hown.symm hu
      · exact ⟨hq, hown⟩

/-- An entry is taken off and its pointer cleared. -/
theorem remove (h : Linked owner ptr l) (hp : l.Perm (p :: l')) :
    Linked owner (Function.update ptr (owner p) none) l' := by
  obtain ⟨hnodup, hptr⟩ := h.perm hp
  rw [List.map_cons, List.nodup_cons] at hnodup
  refine ⟨hnodup.2, fun u q => ?_⟩
  by_cases hu : u = owner p
  · subst hu
    rw [Function.update_self]
    refine iff_of_false (by simp) ?_
    rintro ⟨hq, hown⟩
    exact hnodup.1 (hown ▸ List.mem_map_of_mem hq)
  · rw [Function.update_of_ne hu, hptr, List.mem_cons]
    constructor
    · rintro ⟨rfl | hq, hown⟩
      · exact absurd hown.symm hu
      · exact ⟨hq, hown⟩
    · exact fun ⟨hq, hown⟩ => ⟨Or.inr hq, hown⟩

end Linked

end Usbip.Core
