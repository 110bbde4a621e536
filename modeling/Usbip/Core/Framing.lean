import Mathlib

/-!
# Frames in a stream

A loop reads one frame after the other from a stream that does not mark where a frame ends: it
stays in step only when each reading takes exactly one frame.  What is read may depend on an
environment that others change between two frames.  `consumes_of_reads` reduces the whole stream
to single frames.
-/

namespace Usbip.Core

variable {ε σ τ β : Type*}

/-- A loop that reads from a stream of type `σ`. -/
structure RxLoop (ε σ τ : Type*) where
  /-- The body of the loop, in some environment. -/
  rx : ε → σ → τ
  /-- The stream after it. -/
  rest : τ → σ
  /-- The loop ends here. -/
  stops : τ → Bool

namespace RxLoop

variable (l : RxLoop ε σ τ) (avail : σ → List β)

/-- The body takes exactly this frame, whatever follows it. -/
def Reads (f : ε × List β) : Prop :=
  ∀ s tail, avail s = f.2 ++ tail →
    l.stops (l.rx f.1 s) = false ∧ avail (l.rest (l.rx f.1 s)) = tail

/-- The loop goes from one stream to another, frame by frame. -/
inductive Consumes : List (ε × List β) → σ → σ → Prop
  | nil (s : σ) : Consumes [] s s
  | cons {f : ε × List β} {fs : List (ε × List β)} {s s' : σ} :
      l.stops (l.rx f.1 s) = false → avail s = f.2 ++ avail (l.rest (l.rx f.1 s)) →
      Consumes fs (l.rest (l.rx f.1 s)) s' → Consumes (f :: fs) s s'

variable {l avail}

/-- When each frame is read exactly, the loop takes all of them and stops in front of what
follows. -/
theorem consumes_of_reads {fs : List (ε × List β)} (h : ∀ f ∈ fs, l.Reads avail f) {s : σ}
    {tail : List β} (hs : avail s = fs.flatMap Prod.snd ++ tail) :
    ∃ s', l.Consumes avail fs s s' ∧ avail s' = tail := by
  induction fs generalizing s with
  | nil => exact ⟨s, .nil s, hs⟩
  | cons f fs ih =>
      rw [List.flatMap_cons, List.append_assoc] at hs
      obtain ⟨hstops, hrest⟩ := h f List.mem_cons_self s _ hs
      obtain ⟨s', hcons, htail⟩ := ih (fun f hf => h f (List.mem_cons_of_mem _ hf)) hrest
      exact ⟨s', .cons hstops (hs.trans (congrArg _ hrest.symm)) hcons, htail⟩

end RxLoop

end Usbip.Core
