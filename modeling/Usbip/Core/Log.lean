import Usbip.Core.Machine

/-!
# Append-only logs

What a program has sent, logged or given back is a list that only grows at its end.  Most
ordering properties say that an entry is justified by the entries before it; `Justified` is that
notion, and `justified_snoc` reduces it to the moment an entry is appended.
-/

namespace Usbip.Core

variable {ε : Type*}

/-- Every entry of the log satisfies `J` with respect to the entries before it. -/
def Justified (J : List ε → ε → Prop) (log : List ε) : Prop :=
  ∀ pre e post, log = pre ++ e :: post → J pre e

/-- An empty log is justified. -/
lemma justified_nil (J : List ε → ε → Prop) : Justified J [] := by
  intro pre e post h
  simp at h

/-- Splitting a log that has just been extended: the split point is the new entry or lies in the
old log. -/
lemma snoc_eq_append_cons {log pre post : List ε} {x e : ε}
    (h : log ++ [x] = pre ++ e :: post) :
    (pre = log ∧ e = x ∧ post = []) ∨ ∃ post', post = post' ++ [x] ∧ log = pre ++ e :: post' := by
  rcases List.eq_nil_or_concat post with rfl | ⟨post', y, rfl⟩
  · left
    have := List.append_inj' h rfl
    simp_all
  · right
    have h' : log ++ [x] = (pre ++ e :: post') ++ [y] := by simpa using h
    obtain ⟨hlog, hxy⟩ := List.append_inj' h' rfl
    refine ⟨post', ?_, hlog⟩
    simp_all

/-- A log that has grown is justified when it was and its new entry is. -/
theorem justified_snoc {J : List ε → ε → Prop} {log : List ε} {x : ε} :
    Justified J (log ++ [x]) ↔ Justified J log ∧ J log x := by
  constructor
  · intro h
    refine ⟨fun pre e post hlog => h pre e (post ++ [x]) (by simp [hlog]), h log x [] rfl⟩
  · rintro ⟨hlog, hx⟩ pre e post h
    rcases snoc_eq_append_cons h with ⟨rfl, rfl, -⟩ | ⟨post', -, hsplit⟩
    · exact hx
    · exact hlog pre e post' hsplit

/-- A prefix of a justified log is justified. -/
lemma Justified.of_append {J : List ε → ε → Prop} {log more : List ε}
    (h : Justified J (log ++ more)) : Justified J log :=
  fun pre e post hlog => h pre e (post ++ more) (by simp [hlog])

/-- A weaker reason for every entry. -/
lemma Justified.imp {J J' : List ε → ε → Prop} {log : List ε} (h : Justified J log)
    (hJ : ∀ pre e, (∃ post, log = pre ++ e :: post) → J pre e → J' pre e) : Justified J' log :=
  fun pre e post hlog => hJ pre e ⟨post, hlog⟩ (h pre e post hlog)

end Usbip.Core
