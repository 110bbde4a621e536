import Mathlib

/-!
# Walks that can get stuck

A walk over a list takes one item after the other, until it stops at an item it was looking for,
or the list is at its end.  Some items it cannot take: at these it is stuck, and what is behind
them it never sees.

`walk_outcome` says the three ways a walk can come out.  From it, `walk_thorough_iff` says exactly
on which lists nothing is lost to an item at which the walk gets stuck.
-/

namespace Usbip.Core

variable {α : Type*}

/-- Where a walk stopped, what it took, and what it has not seen. -/
structure Walk (α : Type*) where
  stop : Option α
  taken : List α
  unseen : List α

def walk (passes stops : α → Bool) : List α → Walk α
  | [] => ⟨none, [], []⟩
  | a :: l =>
      if passes a then
        if stops a then ⟨some a, [a], l⟩
        else ⟨(walk passes stops l).stop, a :: (walk passes stops l).taken,
          (walk passes stops l).unseen⟩
      else ⟨none, [], l⟩

section Outcomes

variable (passes stops : α → Bool)

/-- Every item can be taken, and none stops the walk. -/
def Over (l : List α) : Prop := ∀ a ∈ l, passes a = true ∧ stops a = false

inductive Outcome (l : List α) : Walk α → Prop
  | stopped {before : List α} {a : α} {after : List α} (hl : l = before ++ a :: after)
      (hbefore : Over passes stops before) (hpasses : passes a = true) (hstops : stops a = true) :
      Outcome l ⟨some a, before ++ [a], after⟩
  | ended (hl : Over passes stops l) : Outcome l ⟨none, l, []⟩
  | stuck {before : List α} {a : α} {after : List α} (hl : l = before ++ a :: after)
      (hbefore : Over passes stops before) (hpasses : passes a = false) :
      Outcome l ⟨none, before, after⟩

variable {passes stops} {l : List α}

/-- One more element that is passed over. -/
lemma Over.cons {a : α} (hpasses : passes a = true) (hstops : stops a = false)
    (h : Over passes stops l) : Over passes stops (a :: l) := by
  intro b hb
  rcases List.mem_cons.mp hb with rfl | hb
  · exact ⟨hpasses, hstops⟩
  · exact h b hb

/-- A walk that goes over its first item comes out as it does on the rest. -/
lemma Outcome.cons {a : α} {w : Walk α} (hpasses : passes a = true) (hstops : stops a = false)
    (h : Outcome passes stops l w) :
    Outcome passes stops (a :: l) ⟨w.stop, a :: w.taken, w.unseen⟩ := by
  cases h with
  | stopped hl hbefore hp hs =>
      exact .stopped (by rw [hl, List.cons_append]) (hbefore.cons hpasses hstops) hp hs
  | ended hl => exact .ended (hl.cons hpasses hstops)
  | stuck hl hbefore hp =>
      exact .stuck (by rw [hl, List.cons_append]) (hbefore.cons hpasses hstops) hp

/-- What a walk along a list has done. -/
theorem walk_outcome (l : List α) : Outcome passes stops l (walk passes stops l) := by
  induction l with
  | nil => exact .ended fun a ha => absurd ha List.not_mem_nil
  | cons a l ih =>
      have hnil : Over passes stops ([] : List α) := fun a ha => absurd ha List.not_mem_nil
      unfold walk
      split
      · rename_i hpasses
        split
        · rename_i hstops
          exact .stopped (List.nil_append (a :: l)).symm hnil hpasses hstops
        · rename_i hstops
          exact ih.cons hpasses (Bool.eq_false_iff.mpr hstops)
      · rename_i hpasses
        exact .stuck (List.nil_append (a :: l)).symm hnil (Bool.eq_false_iff.mpr hpasses)

/-- What was taken is of the list. -/
lemma Outcome.taken_subset {w : Walk α} (h : Outcome passes stops l w) {a : α} (ha : a ∈ w.taken) :
    a ∈ l := by
  cases h with
  | stopped hl =>
      rw [hl]
      rcases List.mem_append.mp ha with ha | ha
      · exact List.mem_append_left _ ha
      · rw [List.mem_singleton.mp ha]
        exact List.mem_append_right _ (List.mem_cons_self ..)
  | ended => exact ha
  | stuck hl =>
      rw [hl]
      exact List.mem_append_left _ ha

/-- A walk stops only where it is to stop. -/
lemma Outcome.stops_of_stop_eq {w : Walk α} (h : Outcome passes stops l w) {a : α}
    (ha : w.stop = some a) : stops a = true := by
  cases h with
  | stopped _ _ _ hstops =>
      cases ha
      exact hstops
  | ended => cases ha
  | stuck => cases ha

/-! ## What is lost -/

/-- A walk that stops at no item has taken all it must take and seen the whole list. -/
def Thorough (must : α → Prop) (l : List α) (w : Walk α) : Prop :=
  (∀ a ∈ l, must a → a ∈ w.taken ∨ w.stop ≠ none) ∧ (w.stop = none → w.unseen = [])

variable (passes stops) in
/-- Up to the first item that stops the walk, an item that has another behind it, or that must be
taken, can be taken. -/
def Clear (must : α → Prop) (l : List α) : Prop :=
  ∀ before a after, l = before ++ a :: after → (∀ b ∈ before, stops b = false) →
    after ≠ [] ∨ must a → passes a = true

variable {must : α → Prop} {w : Walk α}

/-- With nothing in the way the walk is thorough. -/
lemma Clear.thorough (h : Clear passes stops must l) (hw : Outcome passes stops l w) :
    Thorough must l w := by
  cases hw with
  | stopped => exact ⟨fun a _ _ => .inr (Option.some_ne_none _), fun hstop => by cases hstop⟩
  | ended => exact ⟨fun a ha _ => .inl ha, fun _ => rfl⟩
  | @stuck before a after hl hbefore hpasses =>
      have hstuck : ¬ (after ≠ [] ∨ must a) := by
        intro hlater
        have := h before a after hl (fun b hb => (hbefore b hb).2) hlater
        exact absurd (this.symm.trans hpasses) (by decide)
      obtain ⟨hafter, hmust⟩ := not_or.mp hstuck
      obtain rfl := not_not.mp hafter
      refine ⟨fun b hb hb' => .inl ?_, fun _ => rfl⟩
      rw [hl] at hb
      rcases List.mem_append.mp hb with hb | hb
      · exact hb
      · rw [List.mem_singleton.mp hb] at hb'
        exact absurd hb' hmust

/-- Of two splittings of a list, an item of the one lies before that of the other, is it, or lies
behind it. -/
lemma split_cases {before after before' after' : List α} {a a' : α}
    (h : before ++ a :: after = before' ++ a' :: after') :
    a ∈ before' ∨ a = a' ∧ after = after' ∨ a' ∈ before ∧ after' ≠ [] := by
  rcases List.append_eq_append_iff.mp h with ⟨t, hbefore, hafter⟩ | ⟨t, hbefore, hafter⟩
  · cases t with
    | nil =>
        cases hafter
        exact .inr (.inl ⟨rfl, rfl⟩)
    | cons b t =>
        cases hafter
        exact .inl (by simp [hbefore])
  · cases t with
    | nil =>
        cases hafter
        exact .inr (.inl ⟨rfl, rfl⟩)
    | cons b t =>
        cases hafter
        exact .inr (.inr ⟨by simp [hbefore], by simp⟩)

/-- A walk that was thorough had nothing in the way. -/
lemma Thorough.clear (h : Thorough must l w) (hw : Outcome passes stops l w) :
    Clear passes stops must l := by
  intro before a after hl hbefore hlater
  obtain ⟨htaken, hunseen⟩ := h
  cases hw with
  | stopped hl' hbefore' hpasses hstops =>
      rcases split_cases (hl.symm.trans hl') with ha | ⟨rfl, -⟩ | ⟨ha, -⟩
      · exact (hbefore' a ha).1
      · exact hpasses
      · exact absurd (hstops.symm.trans (hbefore _ ha)) (by decide)
  | ended hl' => exact (hl' a (by simp [hl])).1
  | stuck hl' hbefore' hpasses =>
      rcases split_cases (hl.symm.trans hl') with ha | ⟨-, hafter⟩ | ⟨-, hne⟩
      · exact (hbefore' a ha).1
      · rcases hlater with hne | hmust
        · exact absurd (hafter.trans (hunseen rfl)) hne
        · rcases htaken a (by simp [hl]) hmust with ha | ha
          · exact (hbefore' a ha).1
          · exact absurd rfl ha
      · -- the walk got stuck before `a`, which it has not seen
        exact absurd (hunseen rfl) hne

/-- The walk is thorough exactly when nothing is in the way. -/
theorem walk_thorough_iff : Thorough must l (walk passes stops l) ↔ Clear passes stops must l :=
  ⟨fun h => h.clear (walk_outcome l), fun h => h.thorough (walk_outcome l)⟩

/-- A walk that can take every item it looks for, and is thorough, stops at the first of them. -/
lemma Thorough.stop_eq (hfinds : ∀ a, stops a = true → passes a = true) (h : Thorough must l w)
    (hw : Outcome passes stops l w) : w.stop = l.find? stops := by
  rw [eq_comm]
  cases hw with
  | stopped hl hbefore hpasses hstops =>
      rw [List.find?_eq_some_iff_append]
      exact ⟨hstops, _, _, hl, fun b hb => by simp [(hbefore b hb).2]⟩
  | ended hl =>
      rw [List.find?_eq_none]
      exact fun b hb => by simp [(hl b hb).2]
  | @stuck before a after hl hbefore hpasses =>
      have hlast : l = before ++ [a] := by rw [hl, show after = [] from h.2 rfl]
      rw [List.find?_eq_none, hlast]
      intro b hb hstops
      rcases List.mem_append.mp hb with hb | hb
      · exact absurd (hstops.symm.trans (hbefore b hb).2) (by decide)
      · rw [List.mem_singleton.mp hb] at hstops
        exact absurd ((hfinds a hstops).symm.trans hpasses) (by decide)

end Outcomes

end Usbip.Core
