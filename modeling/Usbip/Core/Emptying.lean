import Mathlib

/-!
# Loops that pop until nothing is found

A clean-up takes one item after the other out of where they are kept, and disposes of each, until
there is none left to take.  It comes to an end, and has disposed of everything once, when popping
is sound (`Pops`): what is popped is taken out, and nothing is found only where nothing is.
-/

namespace Usbip.Core

variable {α β σ : Type*}

/-- `while ((a = pop())) dispose(a);`, or `none` when the fuel does not suffice. -/
def popLoop (pop : σ → Option (α × σ)) (dispose : α → σ → σ) : Nat → σ → Option σ
  | 0, _ => none
  | fuel + 1, s =>
      match pop s with
      | none => some s
      | some (a, s') => popLoop pop dispose fuel (dispose a s')

/-- What is kept in a state and what has been disposed of, by name, and a `pop` that takes from the
one and a `dispose` that adds to the other. -/
structure Pops (pop : σ → Option (α × σ)) (dispose : α → σ → σ) (name : α → β)
    (kept gone : σ → List β) : Prop where
  none_found : ∀ s, pop s = none → kept s = []
  taken : ∀ s a s', pop s = some (a, s') → (kept s).Perm (name a :: kept (dispose a s'))
  disposed : ∀ s a s', pop s = some (a, s') → gone (dispose a s') = gone s ++ [name a]

section Loop

variable {pop : σ → Option (α × σ)} {dispose : α → σ → σ} {name : α → β} {kept gone : σ → List β}

/-- The loop is left when nothing is found. -/
lemma popLoop_of_none {s : σ} (h : pop s = none) (fuel : Nat) :
    popLoop pop dispose (fuel + 1) s = some s := by
  rw [popLoop, h]

/-- The loop goes on when something was found. -/
lemma popLoop_of_some {s s' : σ} {a : α} (h : pop s = some (a, s')) (fuel : Nat) :
    popLoop pop dispose (fuel + 1) s = popLoop pop dispose fuel (dispose a s') := by
  rw [popLoop, h]

/-- As many turns suffice as there are items, and one to find that there are no more. -/
theorem Pops.popLoop (h : Pops pop dispose name kept gone) (s : σ) :
    ∃ t, popLoop pop dispose ((kept s).length + 1) s = some t ∧ kept t = [] ∧
      ∃ l, gone t = gone s ++ l ∧ l.Perm (kept s) := by
  generalize hn : (kept s).length = n
  induction n generalizing s with
  | zero =>
      have hnil := List.length_eq_zero_iff.mp hn
      cases hpop : pop s with
      | none => exact ⟨s, popLoop_of_none hpop 0, hnil, [], (List.append_nil _).symm, hnil ▸ .nil⟩
      | some p =>
          have hperm := h.taken s p.1 p.2 hpop
          rw [hnil] at hperm
          exact absurd hperm.length_eq (by simp)
  | succ n ih =>
      cases hpop : pop s with
      | none =>
          rw [h.none_found s hpop] at hn
          cases hn
      | some p =>
          obtain ⟨a, s'⟩ := p
          have hperm := h.taken s a s' hpop
          have hlen : (kept (dispose a s')).length = n := by
            have := hperm.length_eq
            rw [List.length_cons] at this
            omega
          obtain ⟨t, ht, hkept, l, hgone, hl⟩ := ih _ hlen
          refine ⟨t, (popLoop_of_some hpop _).trans ht, hkept, name a :: l, ?_,
            (hl.cons (name a)).trans hperm.symm⟩
          rw [hgone, h.disposed s a s' hpop, List.append_assoc, List.singleton_append]

end Loop

end Usbip.Core
