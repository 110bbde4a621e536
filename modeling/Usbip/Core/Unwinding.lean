import Usbip.Core.Machine

/-!
# Two runs that one observer cannot tell apart

An observer sees some of the actions of a machine, and of a state only its class under an
equivalence.  If an action it does not see leads to an equivalent state, and an action it sees takes
equivalent states to equivalent ones, then two runs with the same visible actions end in equivalent
states (`Machine.perform_alike`).
-/

namespace Usbip.Core.Machine

variable {σ α : Type*} {M : Machine σ α} {ok : σ → α → Prop} [∀ s a, Decidable (ok s a)]
  {R : σ → σ → Prop} {low : α → Bool}

/-- The first of the actions performed. -/
lemma perform_cons {s t : σ} {a : α} {as : List α} (h : M.perform ok s (a :: as) = some t) :
    ∃ s', ok s a ∧ M.step s a = some s' ∧ M.perform ok s' as = some t := by
  by_cases ha : ok s a
  · rw [perform, if_pos ha, Option.bind_eq_some_iff] at h
    obtain ⟨s', hstep, h⟩ := h
    exact ⟨s', ha, hstep, h⟩
  · rw [perform, if_neg ha] at h
    cases h

/-- The actions performed in two parts. -/
lemma perform_append (as bs : List α) : ∀ {s t : σ}, M.perform ok s (as ++ bs) = some t →
    ∃ s', M.perform ok s as = some s' ∧ M.perform ok s' bs = some t := by
  induction as with
  | nil =>
      intro s t h
      exact ⟨s, rfl, h⟩
  | cons a as ih =>
      intro s t h
      obtain ⟨s₁, ha, hstep, h⟩ := perform_cons h
      obtain ⟨s₂, has, hbs⟩ := ih h
      refine ⟨s₂, ?_, hbs⟩
      rw [perform, if_pos ha, hstep]
      exact has

/-- A run of which nothing is seen. -/
lemma perform_unseen (hR : Equivalence R)
    (hunseen : ∀ s a t, ok s a → low a = false → M.step s a = some t → R s t) (as : List α) :
    ∀ {s t : σ}, (∀ a ∈ as, low a = false) → M.perform ok s as = some t → R s t := by
  induction as with
  | nil =>
      intro s t _ h
      cases h
      exact hR.refl s
  | cons a as ih =>
      intro s t hlow h
      obtain ⟨s', ha, hstep, h⟩ := perform_cons h
      have hfirst : R s s' := hunseen s a s' ha (hlow a List.mem_cons_self) hstep
      exact hR.trans hfirst (ih (fun b hb => hlow b (List.mem_cons_of_mem a hb)) h)

/-- Two runs with the same visible actions. -/
theorem perform_alike (hR : Equivalence R)
    (hunseen : ∀ s a t, ok s a → low a = false → M.step s a = some t → R s t)
    (hseen : ∀ s s' a t t', R s s' → ok s a → ok s' a → low a = true → M.step s a = some t →
      M.step s' a = some t' → R t t') (as : List α) :
    ∀ {as' : List α} {s s' t t' : σ}, R s s' → M.perform ok s as = some t →
      M.perform ok s' as' = some t' → as.filter low = as'.filter low → R t t' := by
  induction as with
  | nil =>
      intro as' s s' t t' hs h h' hsame
      cases h
      have hnone : ∀ a ∈ as', low a = false := by
        intro a ha
        exact Bool.eq_false_of_not_eq_true (List.filter_eq_nil_iff.mp hsame.symm a ha)
      exact hR.trans hs (perform_unseen hR hunseen as' hnone h')
  | cons a as ih =>
      intro as' s s' t t' hs h h' hsame
      obtain ⟨s₁, ha, hstep, h⟩ := perform_cons h
      cases hlow : low a with
      | false =>
          rw [List.filter_cons_of_neg (by rw [hlow]; decide)] at hsame
          have hback : R s₁ s := hR.symm (hunseen s a s₁ ha hlow hstep)
          exact ih (hR.trans hback hs) h h' hsame
      | true =>
          rw [List.filter_cons_of_pos hlow] at hsame
          -- the other run has some unseen actions before the same visible one
          obtain ⟨bs, cs, rfl, hbs, -, hcs⟩ := List.filter_eq_cons_iff.mp hsame.symm
          obtain ⟨s₂, hpre, h'⟩ := perform_append bs (a :: cs) h'
          obtain ⟨s₃, ha', hstep', h'⟩ := perform_cons h'
          have hnone : ∀ b ∈ bs, low b = false := fun b hb => Bool.eq_false_of_not_eq_true (hbs b hb)
          have hreach : R s s₂ := hR.trans hs (perform_unseen hR hunseen bs hnone hpre)
          exact ih (hseen s s₂ a s₁ s₃ hreach ha ha' hlow hstep hstep') h h' hcs.symm

end Usbip.Core.Machine
