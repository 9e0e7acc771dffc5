import SqlCompiler.Proofs.Text.Numeral
import SqlCompiler.Query.Count

/-! Counts in texts. A text is a count if it is a numeral of sixty-four bits, with a plus sign or
without one and with blanks around it or without them.
-/

namespace SqlCompiler

open Text

namespace Count

/-- The text is a numeral of the number, which may have a plus sign in front and blanks around. -/
def IsWritten (text : List Char) (n : Nat) : Prop :=
  ∃ before sign digits after,
    text = before ++ (sign ++ digits) ++ after
    ∧ Blanks before
    ∧ Blanks after
    ∧ (sign = [] ∨ sign = ['+'])
    ∧ IsNumeral digits n

theorem ofDigits?_eq_some_iff {digits : List Char} {n : UInt64}
    : ofDigits? digits = some n ↔ IsNumeral digits n.toNat := by
  simp only [ofDigits?, isNumeral_iff, Option.ite_none_left_eq_some,
    Option.ite_none_right_eq_some, Option.some_inj]
  constructor
  · rintro ⟨areDigits, small, rfl⟩
    simpa [UInt64.toNat_ofNat_of_lt' small] using areDigits
  · rintro ⟨nonempty, areDigits, value⟩
    have small : Nat.ofDigitChars 10 digits 0 < UInt64.size := value ▸ n.toNat_lt
    refine ⟨by simp [nonempty, areDigits], small, ?_⟩
    rw [value, UInt64.ofNat_toNat]

/-- A sign goes before the digits, which have none of their own. -/
theorem ofText?_of_trim {text sign digits : List Char} {n : UInt64}
    (isSign : sign = [] ∨ sign = ['+']) (isNumeral : IsNumeral digits n.toNat)
    (trimmed : trim text = sign ++ digits)
    : ofText? text = some n := by
  have isCount : ofDigits? digits = some n := ofDigits?_eq_some_iff.mpr isNumeral
  rw [ofText?, trimmed]
  rcases isSign with rfl | rfl
  · rw [List.nil_append]
    split
    case h_1 signed =>
      have isDigit : '+'.isDigit = true :=
        List.all_eq_true.mp isNumeral.ofDigitChars.2.1 '+' List.mem_cons_self
      cases isDigit
    case h_2 => exact isCount
  · exact isCount

theorem ofText?_eq_some_iff {text : List Char} {n : UInt64}
    : ofText? text = some n ↔ IsWritten text n.toNat := by
  constructor
  · intro isCount
    obtain ⟨before, after, parts, blankBefore, blankAfter⟩ := exists_around_trim text
    have signed
        : ∃ sign digits,
            trim text = sign ++ digits
            ∧ (sign = [] ∨ sign = ['+'])
            ∧ ofDigits? digits = some n := by
      rw [ofText?] at isCount
      split at isCount
      case h_1 digits trimmed => exact ⟨['+'], digits, trimmed, .inr rfl, isCount⟩
      case h_2 => exact ⟨[], trim text, rfl, .inl rfl, isCount⟩
    obtain ⟨sign, digits, trimmed, isSign, isNumber⟩ := signed
    exact ⟨before, sign, digits, after, trimmed ▸ parts, blankBefore, blankAfter, isSign,
      ofDigits?_eq_some_iff.mp isNumber⟩
  · rintro ⟨before, sign, digits, after, rfl, blankBefore, blankAfter, isSign, isNumeral⟩
    have solid : Solid sign := by rcases isSign with rfl | rfl <;> decide
    have isWord : IsWord (sign ++ digits) :=
      ⟨by simp [isNumeral.isWord.ne_nil],
        List.forall_mem_append.mpr ⟨solid, isNumeral.isWord.solid⟩⟩
    exact ofText?_of_trim isSign isNumeral (isWord.isTrimmed.trim_around blankBefore blankAfter)

/-- A text is no count if it is no numeral, or if its number is too great. -/
theorem ofText?_eq_none_iff {text : List Char}
    : ofText? text = none ↔ ∀ n < UInt64.size, ¬ IsWritten text n := by
  simp only [Option.eq_none_iff_forall_ne_some, ne_eq, ofText?_eq_some_iff]
  constructor
  · intro unwritten n small isWritten
    exact unwritten (.ofNat n) (by rwa [UInt64.toNat_ofNat_of_lt' small])
  · exact fun unwritten n => unwritten n.toNat n.toNat_lt

/-- A count is read back from the digits that it is written in. -/
theorem ofText?_toString (n : UInt64) : ofText? (toString n).toList = some n :=
  ofText?_eq_some_iff.mpr
    ⟨[], [], Nat.toDigits 10 n.toNat, [], Nat.toList_repr.trans (List.append_nil _).symm,
      blanks_nil, blanks_nil, .inl rfl, isNumeral_toDigits n.toNat⟩

end Count

end SqlCompiler
