import SqlCompiler.Text.Blank

/-! Counts: the numbers of rows in `LIMIT` and `OFFSET`. Whatever has no reading as a count
counts as absent.
-/

namespace SqlCompiler

namespace Count

/-- The count written in decimal digits, of which there must be at least one. -/
def ofDigits? (digits : List Char) : Option UInt64 :=
  if digits.isEmpty || !digits.all Char.isDigit then none
  else
    let n := Nat.ofDigitChars 10 digits 0
    if n < UInt64.size then some (UInt64.ofNat n) else none

/-- The count that a text spells: digits, with a plus sign in front or without one, and
blanks around them.
-/
def ofText? (text : List Char) : Option UInt64 :=
  match Text.trim text with
  | '+' :: digits => ofDigits? digits
  | digits => ofDigits? digits

/-- The count equal to an integer; there is none for a negative one. -/
def ofInt? (n : Int) : Option UInt64 :=
  if 0 ≤ n && n < UInt64.size then some (UInt64.ofNat n.toNat) else none

end Count

/-- The types whose elements may be counts. -/
class ToCount (α : Type) where
  toCount? : α → Option UInt64

export ToCount (toCount?)

instance : ToCount UInt64 := ⟨some⟩
instance : ToCount USize := ⟨fun n => some n.toUInt64⟩
instance : ToCount UInt32 := ⟨fun n => some n.toUInt64⟩
instance : ToCount Int64 := ⟨fun n => Count.ofInt? n.toInt⟩
instance : ToCount Int32 := ⟨fun n => Count.ofInt? n.toInt⟩
instance : ToCount String := ⟨fun s => Count.ofText? s.toList⟩

instance {α : Type} [ToCount α] : ToCount (Option α) where
  toCount? count := count.bind toCount?

end SqlCompiler
