import Mathlib

/-!
# Machines, runs and invariants

A concurrent program is read here as a machine: one state that holds everything the threads
share together with the position of each thread, and a partial step function whose actions are
the sections the threads execute without being interleaved.  An interleaving is then a run of
the machine, and "in every reachable state" is `Machine.Reach`.

A run is taken under a condition `ok` on the state and the action of each of its steps, so that
one notion serves both for all runs (`ok` is always true) and for the runs in which some event
does not happen.

* `Machine.Reach.invariant` is the induction rule: what holds at the start and is preserved by
  every step holds in every state reached.
* `Machine.Reach.simulate` transports reachability along a relation to a second machine.
* `Machine.withHistory` adds a history to a machine, for properties of what has happened that its
  state does not keep.
* `Machine.perform` executes a list of actions, so that a concrete run is found by evaluation
  (`Machine.Reach.of_perform`); a rank bounds how many actions of a kind are performed
  (`Machine.countP_add_le_of_perform`).
-/

namespace Usbip.Core

/-- A machine: the states it may start in and the state each enabled action leads to. -/
structure Machine (σ α : Type*) where
  /-- The states a run may start in. -/
  init : σ → Prop
  /-- The successor under an action, `none` when the action is not enabled. -/
  step : σ → α → Option σ

namespace Machine

variable {σ α τ β : Type*} (M : Machine σ α)

/-- `M.Run ok s t`: a finite run from `s` to `t`, every step of which satisfies `ok` in the
state it is taken in. -/
inductive Run (ok : σ → α → Prop) : σ → σ → Prop
  | refl (s : σ) : Run ok s s
  | tail {s t t' : σ} {a : α} : Run ok s t → ok t a → M.step t a = some t' → Run ok s t'

/-- `M.Reach ok t`: some run under `ok` leads from an initial state to `t`. -/
def Reach (ok : σ → α → Prop) (t : σ) : Prop :=
  ∃ s, M.init s ∧ M.Run ok s t

/-- Reachability with no condition on the steps. -/
abbrev Reachable (t : σ) : Prop :=
  M.Reach (fun _ _ => True) t

variable {M} {ok ok' : σ → α → Prop}

/-- A run of one step. -/
lemma Run.single {s t : σ} {a : α} (ha : ok s a) (h : M.step s a = some t) : M.Run ok s t :=
  .tail (.refl s) ha h

/-- One run after the other. -/
lemma Run.trans {s t r : σ} (h₁ : M.Run ok s t) (h₂ : M.Run ok t r) : M.Run ok s r := by
  induction h₂ with
  | refl => exact h₁
  | tail _ ha hstep ih => exact .tail ih ha hstep

/-- A run under a weaker condition. -/
lemma Run.mono (hok : ∀ s a, ok s a → ok' s a) {s t : σ} (h : M.Run ok s t) :
    M.Run ok' s t := by
  induction h with
  | refl => exact .refl _
  | tail _ ha hstep ih => exact .tail ih (hok _ _ ha) hstep

/-- What every step preserves, a run preserves. -/
theorem Run.preserves {I : σ → Prop}
    (hstep : ∀ s a t, I s → ok s a → M.step s a = some t → I t) {s t : σ}
    (h : M.Run ok s t) (hs : I s) : I t := by
  induction h with
  | refl => exact hs
  | tail _ ha hst ih => exact hstep _ _ _ ih ha hst

/-- A start is reached. -/
lemma Reach.start {s : σ} (h : M.init s) : M.Reach ok s :=
  ⟨s, h, .refl s⟩

/-- A step from a state that is reached. -/
lemma Reach.next {s t : σ} {a : α} (h : M.Reach ok s) (ha : ok s a)
    (hstep : M.step s a = some t) : M.Reach ok t := by
  obtain ⟨s₀, h₀, hrun⟩ := h
  exact ⟨s₀, h₀, .tail hrun ha hstep⟩

/-- A run from a state that is reached. -/
lemma Reach.run {s t : σ} (h : M.Reach ok s) (hrun : M.Run ok s t) : M.Reach ok t := by
  obtain ⟨s₀, h₀, hrun₀⟩ := h
  exact ⟨s₀, h₀, hrun₀.trans hrun⟩

/-- Reached under a weaker condition. -/
lemma Reach.mono (hok : ∀ s a, ok s a → ok' s a) {t : σ} (h : M.Reach ok t) :
    M.Reach ok' t := by
  obtain ⟨s₀, h₀, hrun⟩ := h
  exact ⟨s₀, h₀, hrun.mono hok⟩

/-- The invariant rule: true of every initial state and preserved by every step, hence true of
every state reached. -/
theorem Reach.invariant {I : σ → Prop} (h₀ : ∀ s, M.init s → I s)
    (hstep : ∀ s a t, I s → ok s a → M.step s a = some t → I t) {t : σ}
    (h : M.Reach ok t) : I t := by
  obtain ⟨s, hs, hrun⟩ := h
  exact hrun.preserves hstep (h₀ s hs)

/-- A condition that an invariant gives for free may be added to the steps. -/
theorem Reach.strengthen {I : σ → Prop} (hI : ∀ t, M.Reach ok t → I t) {t : σ}
    (h : M.Reach ok t) : M.Reach (fun s a => ok s a ∧ I s) t := by
  obtain ⟨s, hs, hrun⟩ := h
  refine ⟨s, hs, ?_⟩
  induction hrun with
  | refl => exact .refl _
  | tail hprev ha hst ih => exact .tail ih ⟨ha, hI _ ⟨s, hs, hprev⟩⟩ hst

/-! ## Histories -/

/-- The machine together with a history that every step extends, and that no step depends on. -/
def withHistory {η : Type*} (M : Machine σ α) (start : η) (record : σ → α → σ → η → η) :
    Machine (σ × η) α where
  init x := M.init x.1 ∧ x.2 = start
  step x a := (M.step x.1 a).map fun t => (t, record x.1 a t x.2)

/-- One step of the machine with its history is one step of the machine. -/
lemma withHistory_step {η : Type*} {start : η} {record : σ → α → σ → η → η} {x y : σ × η} {a : α}
    (h : (M.withHistory start record).step x a = some y) :
    M.step x.1 a = some y.1 ∧ y.2 = record x.1 a y.1 x.2 := by
  obtain ⟨t, ht, rfl⟩ := Option.map_eq_some_iff.mp h
  exact ⟨ht, rfl⟩

/-! ## Executing a run -/

/-- Perform a list of actions, each of which has to satisfy `ok` and to be enabled. -/
def perform (M : Machine σ α) (ok : σ → α → Prop) [∀ s a, Decidable (ok s a)] :
    σ → List α → Option σ
  | s, [] => some s
  | s, a :: as => if ok s a then (M.step s a).bind (perform M ok · as) else none

/-- Performing actions is a run. -/
lemma run_of_perform [∀ s a, Decidable (ok s a)] (as : List α) :
    ∀ {s t : σ}, M.perform ok s as = some t → M.Run ok s t := by
  induction as with
  | nil =>
      intro s t h
      cases h
      exact .refl _
  | cons a as ih =>
      intro s t h
      by_cases ha : ok s a
      · rw [perform, if_pos ha, Option.bind_eq_some_iff] at h
        obtain ⟨s', hst, h⟩ := h
        exact (Run.single ha hst).trans (ih h)
      · rw [perform, if_neg ha] at h
        cases h

/-- A state with a property is reachable when performing some actions leads to it. -/
theorem Reach.of_perform [∀ s a, Decidable (ok s a)] {s : σ} (as : List α) {P : σ → Prop}
    (h₀ : M.init s) (h : ∃ t ∈ M.perform ok s as, P t) : ∃ t, M.Reach ok t ∧ P t := by
  obtain ⟨t, ht, hP⟩ := h
  exact ⟨t, ⟨s, h₀, run_of_perform as ht⟩, hP⟩

/-- A rank that the actions `p` decrease and that no action increases bounds how many of them are
performed. -/
theorem countP_add_le_of_perform [∀ s a, Decidable (ok s a)] {I : σ → Prop} {p : α → Bool}
    {rank : σ → Nat} (hstep : ∀ s a t, I s → ok s a → M.step s a = some t →
      I t ∧ (if p a then 1 else 0) + rank t ≤ rank s) (as : List α) :
    ∀ {s t : σ}, I s → M.perform ok s as = some t → as.countP p + rank t ≤ rank s := by
  induction as with
  | nil =>
      intro s t _ h
      cases h
      rw [List.countP_nil, Nat.zero_add]
  | cons a as ih =>
      intro s t hs h
      by_cases ha : ok s a
      · rw [perform, if_pos ha, Option.bind_eq_some_iff] at h
        obtain ⟨s', hst, h⟩ := h
        obtain ⟨hs', hrank⟩ := hstep s a s' hs ha hst
        have hrest := ih hs' h
        rw [List.countP_cons]
        omega
      · rw [perform, if_neg ha] at h
        cases h

end Machine

end Usbip.Core
