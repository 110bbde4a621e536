import Mathlib

/-!
# Programs that write and read a stream

A sender writes one block after the other, and a receiver that has its own program reads them:
the two agree when each reading takes exactly one block and makes of it what was written.  Both
are programs over a state that holds the stream, and either may fail.

`Writes` and `Decodes` are composed along the programs, with one rule for each way to build them,
so that a format is verified block by block.
-/

namespace Usbip.Core

variable {σ α β γ : Type}

/-- A program that fails or gives a result and a new state. -/
abbrev Program (σ α : Type) := StateT σ Option α

/-! ## Writing -/

/-- Where it succeeds, the program has added exactly these to what was written. -/
def Writes (sent : σ → List β) (p : Program σ PUnit) (b : List β) : Prop :=
  ∀ s s', p.run s = some (PUnit.unit, s') → sent s' = sent s ++ b

variable {sent : σ → List β}

/-- Doing nothing writes nothing. -/
lemma Writes.pure : Writes sent (pure PUnit.unit) [] := by
  intro s s' h
  obtain rfl : s = s' := congrArg Prod.snd (Option.some.inj h)
  rw [List.append_nil]

/-- What two programs write, one after the other. -/
lemma Writes.bind {p q : Program σ PUnit} {b c : List β} (hp : Writes sent p b)
    (hq : Writes sent q c) : Writes sent (p >>= fun _ => q) (b ++ c) := by
  intro s s' h
  rw [StateT.run_bind] at h
  obtain ⟨⟨u, t⟩, ht, hs'⟩ := Option.bind_eq_some_iff.mp h
  rw [hq t s' hs', hp s t ht, List.append_assoc]

/-- A loop that writes one element after the other. -/
lemma Writes.forM {p : α → Program σ PUnit} {enc : α → List β} {xs : List α}
    (h : ∀ x ∈ xs, Writes sent (p x) (enc x)) : Writes sent (xs.forM p) (xs.flatMap enc) := by
  induction xs with
  | nil => exact Writes.pure
  | cons x xs ih =>
      rw [List.flatMap_cons]
      exact (h x List.mem_cons_self).bind (ih fun y hy => h y (List.mem_cons_of_mem x hy))

/-- The program succeeds when the stream takes `n` more pieces, and uses up no more of them. -/
def Completes (room : σ → Nat) (p : Program σ PUnit) (n : Nat) : Prop :=
  ∀ s, n ≤ room s → ∃ s', p.run s = some (PUnit.unit, s') ∧ room s ≤ room s' + n

variable {room : σ → Nat}

/-- Doing nothing needs no room. -/
lemma Completes.pure : Completes room (pure PUnit.unit) 0 := by
  intro s _
  exact ⟨s, rfl, Nat.le_add_right _ 0⟩

/-- Two programs need the room of both. -/
lemma Completes.bind {p q : Program σ PUnit} {m n : Nat} (hp : Completes room p m)
    (hq : Completes room q n) : Completes room (p >>= fun _ => q) (m + n) := by
  intro s h
  obtain ⟨t, hrun, ht⟩ := hp s (by omega)
  obtain ⟨s', hrun', hs'⟩ := hq t (by omega)
  refine ⟨s', ?_, by omega⟩
  rw [StateT.run_bind, hrun]
  exact hrun'

/-- A loop needs the room of all its rounds. -/
lemma Completes.forM {p : α → Program σ PUnit} {enc : α → List β} {xs : List α}
    (h : ∀ x ∈ xs, Completes room (p x) (enc x).length) :
    Completes room (xs.forM p) (xs.flatMap enc).length := by
  induction xs with
  | nil => exact Completes.pure
  | cons x xs ih =>
      rw [List.flatMap_cons, List.length_append]
      exact (h x List.mem_cons_self).bind (ih fun y hy => h y (List.mem_cons_of_mem x hy))

/-! ## Reading -/

/-- The program takes exactly these, whatever follows them, and makes `x` of them. -/
def Decodes (avail : σ → List β) (p : Program σ α) (b : List β) (x : α) : Prop :=
  ∀ s rest, avail s = b ++ rest → ∃ s', p.run s = some (x, s') ∧ avail s' = rest

variable {avail : σ → List β}

/-- Doing nothing reads nothing. -/
lemma Decodes.pure (x : α) : Decodes avail (pure x) [] x := by
  intro s rest h
  exact ⟨s, rfl, h⟩

/-- What two programs read, one after the other. -/
lemma Decodes.bind {p : Program σ α} {f : α → Program σ γ} {b c : List β} {x : α} {y : γ}
    (hp : Decodes avail p b x) (hf : Decodes avail (f x) c y) :
    Decodes avail (p >>= f) (b ++ c) y := by
  intro s rest h
  rw [List.append_assoc] at h
  obtain ⟨t, hrun, ht⟩ := hp s (c ++ rest) h
  obtain ⟨s', hrun', hs'⟩ := hf t rest ht
  refine ⟨s', ?_, hs'⟩
  rw [StateT.run_bind, hrun]
  exact hrun'

/-- What is made of a block after it was read. -/
lemma Decodes.map {p : Program σ α} {b : List β} {x : α} (hp : Decodes avail p b x) (f : α → γ) :
    Decodes avail (f <$> p) b (f x) := by
  intro s rest h
  obtain ⟨s', hrun, hs'⟩ := hp s rest h
  refine ⟨s', ?_, hs'⟩
  rw [StateT.run_map, hrun]
  rfl

/-- A program run a number of times, with the results in order. -/
def times (p : Program σ α) : Nat → Program σ (List α)
  | 0 => pure []
  | n + 1 => do
      let x ← p
      let xs ← times p n
      pure (x :: xs)

/-- A loop that reads as many elements as were written. -/
lemma Decodes.times {p : Program σ γ} {enc : α → List β} {f : α → γ} {xs : List α}
    (h : ∀ x ∈ xs, Decodes avail p (enc x) (f x)) :
    Decodes avail (times p xs.length) (xs.flatMap enc) (xs.map f) := by
  induction xs with
  | nil => exact Decodes.pure []
  | cons x xs ih =>
      rw [List.flatMap_cons, List.length_cons, List.map_cons]
      refine (h x List.mem_cons_self).bind ?_
      exact (ih fun y hy => h y (List.mem_cons_of_mem x hy)).map fun ys => f x :: ys

end Usbip.Core
