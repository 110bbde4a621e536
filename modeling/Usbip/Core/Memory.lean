import Mathlib

/-!
# Blocks that are allocated and freed

Blocks of memory are numbered as they are allocated, and `freed` records the calls that free one,
in their order.  A function leaves a trace between two memories: the blocks it has allocated, each
of them freed once or kept by somebody.  `Traced m m' kept` says that there is no third kind, and
that no other block has been freed; it is built along the code, and what a function keeps is
released when it is empty.
-/

namespace Usbip.Core

structure Memory where
  used : Nat := 0
  freed : List Nat := []
  deriving DecidableEq

namespace Memory

/-- The block that the next allocation gives is `m.used`. -/
def alloc (m : Memory) : Memory := { m with used := m.used + 1 }

def free (addr : Nat) (m : Memory) : Memory := { m with freed := m.freed ++ [addr] }

/-- Everything allocated from `m` to `m'` has been freed once, but for the blocks in `kept`. -/
structure Traced (m m' : Memory) (kept : List Nat) : Prop where
  le : m.used ≤ m'.used
  freed : ∃ l, m'.freed = m.freed ++ l ∧ (l ++ kept).Perm (List.range' m.used (m'.used - m.used))

section Traced

variable {m m' m'' : Memory} {kept kept' : List Nat}

/-- Nothing is allocated and nothing kept. -/
lemma Traced.refl (m : Memory) : Traced m m [] :=
  ⟨Nat.le_refl _, [], (List.append_nil _).symm, by rw [Nat.sub_self]; exact .nil⟩

/-- One part after the other keeps what both keep. -/
lemma Traced.trans (h : Traced m m' kept) (h' : Traced m' m'' kept') :
    Traced m m'' (kept ++ kept') := by
  obtain ⟨hle, l, hl, hperm⟩ := h
  obtain ⟨hle', l', hl', hperm'⟩ := h'
  refine ⟨Nat.le_trans hle hle', l ++ l', ?_, ?_⟩
  · rw [hl', hl, List.append_assoc]
  · have hrange : List.range' m.used (m'.used - m.used) ++
        List.range' m'.used (m''.used - m'.used) = List.range' m.used (m''.used - m.used) := by
      have happend := @List.range'_append_1 m.used (m'.used - m.used) (m''.used - m'.used)
      rw [Nat.add_sub_cancel' hle, ← Nat.add_sub_assoc hle'] at happend
      rw [happend]
      congr 1
      omega
    rw [← hrange]
    refine List.Perm.trans ?_ (hperm.append hperm')
    rw [List.append_assoc, List.append_assoc]
    refine List.Perm.append_left l ?_
    rw [← List.append_assoc, ← List.append_assoc]
    exact List.perm_append_comm.append_right kept'

/-- The order of what is kept does not matter. -/
lemma Traced.perm (h : Traced m m' kept) (hperm : kept.Perm kept') : Traced m m' kept' := by
  obtain ⟨hle, l, hl, hrange⟩ := h
  exact ⟨hle, l, hl, (hperm.append_left l).symm.trans hrange⟩

/-- A block is allocated. -/
lemma traced_alloc (m : Memory) : Traced m m.alloc [m.used] := by
  refine ⟨Nat.le_succ _, [], (List.append_nil _).symm, ?_⟩
  rw [alloc, Nat.add_sub_cancel_left]
  exact .refl _

/-- A block that was kept is freed. -/
lemma Traced.free {addr : Nat} (h : Traced m m' (addr :: kept)) :
    Traced m (m'.free addr) kept := by
  obtain ⟨hle, l, hl, hperm⟩ := h
  refine ⟨hle, l ++ [addr], ?_, ?_⟩
  · rw [Memory.free, hl, List.append_assoc]
  · rw [List.append_assoc]
    exact hperm

/-- All of the blocks kept are freed. -/
lemma Traced.free_all (h : Traced m m' kept) :
    Traced m (kept.foldl (fun m addr => m.free addr) m') [] := by
  induction kept generalizing m' with
  | nil => exact h
  | cons addr kept ih => exact ih h.free

/-- What is kept has not been freed. -/
lemma Traced.nil_iff (h : Traced m m' kept) : Traced m m' [] ↔ kept = [] := by
  constructor
  · intro h'
    obtain ⟨-, l, hl, hperm⟩ := h
    obtain ⟨-, l', hl', hperm'⟩ := h'
    obtain rfl := List.append_cancel_left (hl.symm.trans hl')
    have hlen := hperm.length_eq.trans hperm'.length_eq.symm
    rw [List.append_nil, List.length_append] at hlen
    exact List.length_eq_zero_iff.mp (by omega)
  · rintro rfl
    exact h

end Traced

end Memory

end Usbip.Core
