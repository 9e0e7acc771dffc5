import Mathlib.Data.List.Induction
import SqlCompiler.Proofs.Text.Blank

/-! Numbers in decimal digits. A numeral may have zeros in front. Without them there is one for each
number, and it is read back as that number; a negative number has a minus sign.
-/

namespace SqlCompiler.Text

variable {digits text : List Char} {n : Nat}

-----------------------------------------------------------------------------------------
-- Numerals
-----------------------------------------------------------------------------------------

/-- The text is one decimal digit or more, and they spell the number. -/
inductive IsNumeral : List Char → Nat → Prop
  | digit {d : Nat} (small : d < 10) : IsNumeral [Nat.digitChar d] d
  | snoc {digits : List Char} {n d : Nat} (front : IsNumeral digits n) (small : d < 10)
    : IsNumeral (digits ++ [Nat.digitChar d]) (10 * n + d)

/-- A digit is the one of its number. -/
theorem exists_digitChar {c : Char} (isDigit : c.isDigit = true)
    : ∃ d < 10, c = Nat.digitChar d := by
  have code : 48 ≤ c.toNat ∧ c.toNat ≤ 57 := by
    simpa [Char.isDigit, UInt32.le_iff_toNat_le] using isDigit
  have small : c.toNat - 48 < 10 := by omega
  refine ⟨c.toNat - 48, small, Char.toNat_inj.mp ?_⟩
  rw [Nat.toNat_digitChar_of_lt_ten small]
  omega

theorem isDigit_digitChar {d : Nat} (small : d < 10) : (Nat.digitChar d).isDigit = true := by
  simp [Nat.isDigit_digitChar, small]

/-- The digits of a numeral give its number from left to right, by induction on the numeral. -/
theorem IsNumeral.ofDigitChars (isNumeral : IsNumeral digits n)
    : digits ≠ [] ∧ digits.all Char.isDigit = true ∧ Nat.ofDigitChars 10 digits 0 = n := by
  induction isNumeral with
  | digit small =>
      simp [isDigit_digitChar small, Nat.ofDigitChars_cons_digitChar_of_lt_ten small]
  | snoc front small ih =>
      obtain ⟨-, areDigits, value⟩ := ih
      simp [areDigits, isDigit_digitChar small, Nat.ofDigitChars_append, value,
        Nat.ofDigitChars_cons_digitChar_of_lt_ten small]

/-- Digits are a numeral of the number they give, by induction from the last digit on. -/
theorem isNumeral_ofDigitChars (nonempty : digits ≠ []) (areDigits : digits.all Char.isDigit = true)
    : IsNumeral digits (Nat.ofDigitChars 10 digits 0) := by
  induction digits using List.reverseRecOn with
  | nil => exact absurd rfl nonempty
  | append_singleton front c ih =>
      simp only [List.all_append, List.all_cons, List.all_nil, Bool.and_true,
        Bool.and_eq_true] at areDigits
      obtain ⟨d, small, rfl⟩ := exists_digitChar areDigits.2
      rw [Nat.ofDigitChars_append, Nat.ofDigitChars_cons_digitChar_of_lt_ten small,
        Nat.ofDigitChars_nil]
      cases front with
      | nil => simpa using IsNumeral.digit small
      | cons first front => exact (ih (List.cons_ne_nil first front) areDigits.1).snoc small

theorem isNumeral_iff
    : IsNumeral digits n
      ↔ digits ≠ [] ∧ digits.all Char.isDigit = true ∧ Nat.ofDigitChars 10 digits 0 = n :=
  ⟨IsNumeral.ofDigitChars,
    fun ⟨nonempty, areDigits, value⟩ => value ▸ isNumeral_ofDigitChars nonempty areDigits⟩

theorem isNumeral_toDigits (n : Nat) : IsNumeral (Nat.toDigits 10 n) n := by
  refine isNumeral_iff.mpr ⟨Nat.toDigits_ne_nil, ?_, Nat.ofDigitChars_ten_toDigits⟩
  exact List.all_eq_true.mpr fun c member =>
    Nat.isDigit_of_mem_toDigits (by decide) (by decide) member

theorem IsNumeral.isWord (isNumeral : IsNumeral digits n) : IsWord digits where
  ne_nil := isNumeral.ofDigitChars.1
  solid c member :=
    isBlank_of_isDigit (List.all_eq_true.mp isNumeral.ofDigitChars.2.1 c member)

-----------------------------------------------------------------------------------------
-- Reading numbers as they are written
-----------------------------------------------------------------------------------------

/-- The number that is written as the text. -/
def natural? (text : List Char) : Option Nat :=
  let n := Nat.ofDigitChars 10 text 0
  if Nat.toDigits 10 n = text then some n else none

theorem natural?_eq_some_iff : natural? text = some n ↔ text = Nat.toDigits 10 n := by
  rw [natural?, Option.ite_none_right_eq_some, Option.some_inj]
  constructor
  · rintro ⟨same, rfl⟩
    exact same.symm
  · rintro rfl
    exact ⟨by rw [Nat.ofDigitChars_ten_toDigits], Nat.ofDigitChars_ten_toDigits⟩

/-- The integer that is written as the text. -/
def integer? : List Char → Option Int
  | '-' :: digits => (natural? digits).map Int.negOfNat
  | digits => (natural? digits).map Int.ofNat

/-- An integer is read back from its text. -/
theorem integer?_toString (i : Int) : integer? (toString i).toList = some i := by
  have natural (n : Nat) : natural? (Nat.toDigits 10 n) = some n := natural?_eq_some_iff.mpr rfl
  rw [Int.toString_eq_repr, Int.repr_eq_if]
  split
  case isTrue nonneg =>
    rw [Nat.toList_repr, integer?]
    · rw [natural, Option.map_some]
      exact congrArg some (Int.toNat_of_nonneg nonneg)
    · intro digits signed
      have isDigit : '-'.isDigit = true :=
        Nat.isDigit_of_mem_toDigits (by decide) (by decide) (signed ▸ List.mem_cons_self)
      cases isDigit
  case isFalse negative =>
    have signed : ("-" ++ (-i).toNat.repr).toList = '-' :: Nat.toDigits 10 (-i).toNat := by simp
    have magnitude : -((-i).toNat : Int) = i := by omega
    rw [signed, integer?, natural, Option.map_some, Int.negOfNat_eq]
    exact congrArg some magnitude

theorem isDigit_of_mem_toString {i : Int} {c : Char} (member : c ∈ (toString i).toList)
    : c = '-' ∨ c.isDigit = true := by
  have inDigits {n : Nat} (member : c ∈ n.repr.toList) : c.isDigit = true :=
    Nat.isDigit_of_mem_toDigits (by decide) (by decide) (Nat.toList_repr ▸ member)
  rw [Int.toString_eq_repr, Int.repr_eq_if] at member
  split at member
  · exact .inr (inDigits member)
  · rw [String.toList_append] at member
    rcases List.mem_append.mp member with sign | digit
    · exact .inl (List.mem_singleton.mp sign)
    · exact .inr (inDigits digit)

end SqlCompiler.Text
