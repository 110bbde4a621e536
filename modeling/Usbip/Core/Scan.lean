import Mathlib

/-!
# Printing and scanning numbers

What the conversions of `printf` and `scanf` do to characters, as far as numbers in decimal and
hexadecimal digits and words are concerned.  A scan skips white space, takes what the conversion
matches, and leaves the rest; it fails when nothing matches.

`scanInt_digits`, `scanHex_digits` and `scanWord_word` say what a scan takes from text that starts
with blanks and the item; `digits_decimal` and `hexDigits_hexadecimal` that numbers are printed as
such items.
-/

namespace Usbip.Core

/-! ## Characters -/

/-- `isspace`. -/
def isSpace (ch : Char) : Bool := ch.toNat = 32 ∨ 9 ≤ ch.toNat ∧ ch.toNat ≤ 13

/-- `isxdigit`. -/
def isHexDigit (ch : Char) : Bool :=
  48 ≤ ch.toNat ∧ ch.toNat ≤ 57 ∨ 97 ≤ ch.toNat ∧ ch.toNat ≤ 102 ∨ 65 ≤ ch.toNat ∧ ch.toNat ≤ 70

/-- The digits are ten characters in a row. -/
lemma isDigit_iff (ch : Char) : ch.isDigit = true ↔ 48 ≤ ch.toNat ∧ ch.toNat ≤ 57 := by
  simp [Char.isDigit, UInt32.le_iff_toNat_le]

/-- A digit is a digit in base 16. -/
lemma isHexDigit_of_isDigit {ch : Char} (h : ch.isDigit = true) : isHexDigit ch = true :=
  decide_eq_true (.inl ((isDigit_iff ch).mp h))

/-- A digit is no blank. -/
lemma not_isSpace_of_isHexDigit {ch : Char} (h : isHexDigit ch = true) : isSpace ch = false := by
  simp only [isHexDigit, decide_eq_true_eq] at h
  simp only [isSpace, decide_eq_false_iff_not]
  omega

/-! ## Printing -/

/-- `%0wu`. -/
def decimal (w n : Nat) : List Char := List.leftpad w '0' (Nat.toDigits 10 n)

/-- `%0wx`. -/
def hexadecimal (w n : Nat) : List Char := List.leftpad w '0' (Nat.toDigits 16 n)

/-- Padding leaves something where there was something. -/
lemma leftpad_ne_nil {w : Nat} {ch : Char} {l : List Char} (h : l ≠ []) : List.leftpad w ch l ≠ [] := by
  simp [List.leftpad, h]

/-- Padding adds nothing but the padding. -/
lemma mem_leftpad {w : Nat} {ch a : Char} {l : List Char} (h : a ∈ List.leftpad w ch l) :
    a = ch ∨ a ∈ l := by
  rcases List.mem_append.mp h with h | h
  · exact .inl (List.eq_of_mem_replicate h)
  · exact .inr h

/-- A number is printed in digits that stand for it. -/
lemma digits_decimal (w n : Nat) :
    decimal w n ≠ [] ∧ (∀ ch ∈ decimal w n, ch.isDigit = true) ∧
      Nat.ofDigitChars 10 (decimal w n) 0 = n := by
  refine ⟨leftpad_ne_nil Nat.toDigits_ne_nil, fun ch hch => ?_, ?_⟩
  · rcases mem_leftpad hch with rfl | hch
    · rfl
    · exact Nat.isDigit_of_mem_toDigits (by decide) (by decide) hch
  · rw [decimal, List.leftpad, Nat.ofDigitChars_append, Nat.ofDigitChars_replicate_zero, Nat.mul_zero,
      Nat.ofDigitChars_ten_toDigits]

/-- What is printed for a digit is a digit. -/
lemma isHexDigit_digitChar {d : Nat} (h : d < 16) : isHexDigit d.digitChar = true := by
  interval_cases d <;> decide

/-- What is printed for a number are digits. -/
lemma isHexDigit_of_mem_toDigits {n : Nat} {ch : Char} (h : ch ∈ Nat.toDigits 16 n) :
    isHexDigit ch = true := by
  induction n using Nat.strong_induction_on with
  | _ n ih =>
      rw [Nat.toDigits_eq_if (by decide)] at h
      split at h
      · rename_i hlt
        rw [List.mem_singleton.mp h]
        exact isHexDigit_digitChar hlt
      · rcases List.mem_append.mp h with h | h
        · exact ih (n / 16) (by omega) h
        · rw [List.mem_singleton.mp h]
          exact isHexDigit_digitChar (Nat.mod_lt n (by decide))

/-- The value of a hexadecimal digit. -/
def hexValue (ch : Char) : Nat :=
  if ch.toNat ≤ 57 then ch.toNat - 48 else if ch.toNat ≤ 70 then ch.toNat - 55 else ch.toNat - 87

def ofHexDigits (l : List Char) : Nat := l.foldl (fun n ch => 16 * n + hexValue ch) 0

/-- A digit is read back. -/
lemma hexValue_digitChar {d : Nat} (h : d < 16) : hexValue d.digitChar = d := by
  interval_cases d <;> decide

/-- One digit more. -/
lemma ofHexDigits_concat (l : List Char) (ch : Char) :
    ofHexDigits (l ++ [ch]) = 16 * ofHexDigits l + hexValue ch := by
  simp [ofHexDigits]

/-- A number is read back. -/
lemma ofHexDigits_toDigits (n : Nat) : ofHexDigits (Nat.toDigits 16 n) = n := by
  induction n using Nat.strong_induction_on with
  | _ n ih =>
      rw [Nat.toDigits_eq_if (by decide)]
      split
      · rename_i hlt
        rw [← List.nil_append [_], ofHexDigits_concat, hexValue_digitChar hlt]
        exact Nat.zero_add n
      · rw [ofHexDigits_concat, ih (n / 16) (by omega), hexValue_digitChar (Nat.mod_lt n (by decide))]
        omega

/-- Zeros in front do not count. -/
lemma ofHexDigits_zeros (k : Nat) (l : List Char) :
    ofHexDigits (List.replicate k '0' ++ l) = ofHexDigits l := by
  induction k with
  | zero => rfl
  | succ k ih => exact ih

/-- The same in hexadecimal digits. -/
lemma hexDigits_hexadecimal (w n : Nat) :
    hexadecimal w n ≠ [] ∧ (∀ ch ∈ hexadecimal w n, isHexDigit ch = true) ∧
      ofHexDigits (hexadecimal w n) = n := by
  refine ⟨leftpad_ne_nil Nat.toDigits_ne_nil, fun ch hch => ?_, ?_⟩
  · rcases mem_leftpad hch with rfl | hch
    · rfl
    · exact isHexDigit_of_mem_toDigits hch
  · rw [hexadecimal, List.leftpad, ofHexDigits_zeros, ofHexDigits_toDigits]

/-! ## Scanning -/

/-- An optional sign. -/
def sign : List Char → Bool × List Char
  | '-' :: l => (true, l)
  | '+' :: l => (false, l)
  | l => (false, l)

def signed (neg : Bool) (n : Nat) : Int := if neg then -n else n

/-- `%d`. -/
def scanInt (l : List Char) : Option (Int × List Char) :=
  let (neg, l) := sign (l.dropWhile isSpace)
  let ds := l.takeWhile Char.isDigit
  if ds = [] then none
  else some (signed neg (Nat.ofDigitChars 10 ds 0), l.dropWhile Char.isDigit)

/-- An optional `0x`. -/
def dropRadix : List Char → List Char
  | '0' :: 'x' :: l => l
  | '0' :: 'X' :: l => l
  | l => l

/-- `%x` and `%lx`. -/
def scanHex (l : List Char) : Option (Int × List Char) :=
  let (neg, l) := sign (l.dropWhile isSpace)
  let l := dropRadix l
  let ds := l.takeWhile isHexDigit
  if ds = [] then none else some (signed neg (ofHexDigits ds), l.dropWhile isHexDigit)

/-- `%ws`. -/
def scanWord (w : Nat) (l : List Char) : Option (List Char × List Char) :=
  let l := l.dropWhile isSpace
  let word := (l.takeWhile fun ch => !isSpace ch).take w
  if word = [] then none else some (word, l.drop word.length)

section Items

variable {blanks ds rest : List Char}

/-- The text goes on with a character that is not of the class. -/
def Ends (p : Char → Bool) (rest : List Char) : Prop := ∀ ch ∈ rest.head?, p ch = false

/-- An item ends before a character that is not of its kind. -/
lemma Ends.cons {p : Char → Bool} {ch : Char} (h : p ch = false) : Ends p (ch :: rest) := by
  intro a ha
  cases ha
  exact h

/-- An item is taken whole, and nothing behind it. -/
lemma takeWhile_item {p : Char → Bool} (hds : ∀ ch ∈ ds, p ch = true) (hrest : Ends p rest) :
    (ds ++ rest).takeWhile p = ds ∧ (ds ++ rest).dropWhile p = rest := by
  rw [List.takeWhile_append_of_pos hds, List.dropWhile_append_of_pos hds]
  cases rest with
  | nil => simp
  | cons ch rest => simp [hrest ch rfl]

/-- The blanks in front of an item are skipped. -/
lemma dropWhile_blanks (hblanks : ∀ ch ∈ blanks, isSpace ch = true) (hne : ds ≠ [])
    (hds : ∀ ch ∈ ds, isSpace ch = false) :
    (blanks ++ (ds ++ rest)).dropWhile isSpace = ds ++ rest := by
  rw [List.dropWhile_append_of_pos hblanks]
  cases ds with
  | nil => exact absurd rfl hne
  | cons ch ds => simp [hds ch (List.mem_cons_self ..)]

/-- A digit is no sign. -/
lemma sign_of_hexDigits (hne : ds ≠ []) (hds : ∀ ch ∈ ds, isHexDigit ch = true) :
    sign (ds ++ rest) = (false, ds ++ rest) := by
  cases ds with
  | nil => exact absurd rfl hne
  | cons ch ds =>
      have hch := hds ch (List.mem_cons_self ..)
      unfold sign
      split
      · rename_i h
        cases h
        exact absurd hch (by decide)
      · rename_i h
        cases h
        exact absurd hch (by decide)
      · rfl

/-- The letter of the radix is no digit. -/
lemma dropRadix_of_hexDigits (hds : ∀ ch ∈ ds, isHexDigit ch = true) (hne : ds ≠ []) :
    dropRadix (ds ++ ' ' :: rest) = ds ++ ' ' :: rest := by
  have hsecond : ∀ ch l, ds ++ ' ' :: rest = '0' :: ch :: l → ch = ' ' ∨ isHexDigit ch = true := by
    intro ch l h
    cases ds with
    | nil => exact absurd rfl hne
    | cons a ds =>
        cases ds with
        | nil =>
            cases h
            exact .inl rfl
        | cons b ds =>
            cases h
            exact .inr (hds _ (by simp))
  unfold dropRadix
  split
  · rename_i h
    exact absurd (hsecond _ _ h) (by decide)
  · rename_i h
    exact absurd (hsecond _ _ h) (by decide)
  · rfl

/-- `%d` takes digits. -/
lemma scanInt_digits (hblanks : ∀ ch ∈ blanks, isSpace ch = true) (hne : ds ≠ [])
    (hds : ∀ ch ∈ ds, ch.isDigit = true) (hrest : Ends Char.isDigit rest) :
    scanInt (blanks ++ (ds ++ rest)) = some (((Nat.ofDigitChars 10 ds 0 : Nat) : Int), rest) := by
  have hhex : ∀ ch ∈ ds, isHexDigit ch = true := fun ch hch => isHexDigit_of_isDigit (hds ch hch)
  have hspace := fun ch hch => not_isSpace_of_isHexDigit (hhex ch hch)
  obtain ⟨htake, hdrop⟩ := takeWhile_item hds hrest
  unfold scanInt
  rw [dropWhile_blanks hblanks hne hspace, sign_of_hexDigits hne hhex]
  dsimp only
  rw [htake, hdrop, if_neg hne]
  rfl

/-- `%x` takes hexadecimal digits. -/
lemma scanHex_digits (hblanks : ∀ ch ∈ blanks, isSpace ch = true) (hne : ds ≠ [])
    (hds : ∀ ch ∈ ds, isHexDigit ch = true) (rest : List Char) :
    scanHex (blanks ++ (ds ++ ' ' :: rest)) = some (((ofHexDigits ds : Nat) : Int), ' ' :: rest) := by
  have hspace := fun ch hch => not_isSpace_of_isHexDigit (hds ch hch)
  have hend : Ends isHexDigit (' ' :: rest) := .cons (by decide)
  obtain ⟨htake, hdrop⟩ := takeWhile_item hds hend
  unfold scanHex
  rw [dropWhile_blanks hblanks hne hspace, sign_of_hexDigits hne hds]
  dsimp only
  rw [dropRadix_of_hexDigits hds hne, htake, hdrop, if_neg hne]
  rfl

/-- `%x` takes nothing from a word that starts with another character. -/
lemma scanHex_eq_none {ch : Char} (hblanks : ∀ ch ∈ blanks, isSpace ch = true)
    (hch : isSpace ch = false ∧ isHexDigit ch = false ∧ ch ≠ '-' ∧ ch ≠ '+') :
    scanHex (blanks ++ ch :: rest) = none := by
  obtain ⟨hspace, hhex, hminus, hplus⟩ := hch
  have hdrop : (blanks ++ ch :: rest).dropWhile isSpace = ch :: rest := by
    rw [List.dropWhile_append_of_pos hblanks]
    simp [hspace]
  have hsign : sign (ch :: rest) = (false, ch :: rest) := by
    unfold sign
    split
    · rename_i h
      cases h
      exact absurd rfl hminus
    · rename_i h
      cases h
      exact absurd rfl hplus
    · rfl
  have hradix : dropRadix (ch :: rest) = ch :: rest := by
    have hzero : ch ≠ '0' := by
      rintro rfl
      exact absurd hhex (by decide)
    unfold dropRadix
    split
    · rename_i h
      cases h
      exact absurd rfl hzero
    · rename_i h
      cases h
      exact absurd rfl hzero
    · rfl
  unfold scanHex
  rw [hdrop, hsign]
  dsimp only
  rw [hradix, List.takeWhile_cons, hhex]
  rfl

/-- `%s` takes a word. -/
lemma scanWord_word {w : Nat} (hblanks : ∀ ch ∈ blanks, isSpace ch = true) (hne : ds ≠ [])
    (hds : ∀ ch ∈ ds, isSpace ch = false) (hw : ds.length ≤ w)
    (hrest : ∀ ch ∈ rest.head?, isSpace ch = true) :
    scanWord w (blanks ++ (ds ++ rest)) = some (ds, rest) := by
  have hends : Ends (fun ch => !isSpace ch) rest := fun ch hch => by simp [hrest ch hch]
  have hword : ∀ ch ∈ ds, (!isSpace ch) = true := fun ch hch => by simp [hds ch hch]
  obtain ⟨htake, -⟩ := takeWhile_item hword hends
  unfold scanWord
  rw [dropWhile_blanks hblanks hne hds]
  dsimp only
  rw [htake, List.take_of_length_le hw, if_neg hne, List.drop_left]

end Items

end Usbip.Core
