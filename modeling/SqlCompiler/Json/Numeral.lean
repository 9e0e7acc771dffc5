import SqlCompiler.Decimal.Double

/-! Numerals of JSON and the numbers they are read as. An integer of up to sixty-four bits
is read exactly. Any other numeral becomes a binary64 number by a rule that may be a few
units off in the last place: a significand below `2 ^ 64` is rounded, and then multiplied or
divided by a rounded power of ten, with one more rounding.
-/

namespace SqlCompiler.Json

open Decimal (pow2 pow10)

/-- A numeral as it is written. Without a point the fraction is empty. -/
structure Numeral where
  negative : Bool := false
  whole : List Char := []
  fraction : List Char := []
  /-- Whether the exponent is negative, and its digits. -/
  exponent : Option (Bool × List Char) := none
deriving DecidableEq, Repr, Inhabited

/-- The number a numeral is read as. -/
inductive Number
  | integer (n : Int)
  | float (x : Double)
deriving DecidableEq, Repr

namespace Numeral

/-- A significand is kept below this bound; digits that would lift it above are dropped. -/
def significandBound : Nat := pow2 64

/-- Appends digits to a significand until the first one for which there is no room. Yields
the significand and the digits from that one on.
-/
def takeDigits (significand : Nat) : List Char → Nat × List Char
  | [] => (significand, [])
  | c :: rest =>
      let next := Nat.ofDigitChars 10 [c] significand
      if next < significandBound then takeDigits next rest else (significand, c :: rest)

/-- The powers of ten that binary64 can hold are those up to this exponent. -/
def greatestPower : Nat := 308

/-- The value rounded, multiplied by a rounded power of ten, and rounded again. -/
def scaleUp? (value : Nat × Nat) (power : Nat) : Option (Nat × Nat) := do
  let value ← Double.rounded? value
  let factor ← Double.rounded? (pow10 power, 1)
  Double.rounded? (value.1 * factor.1, value.2 * factor.2)

/-- The value rounded, divided by a rounded power of ten, and rounded again. -/
def scaleDown? (value : Nat × Nat) (power : Nat) : Option (Nat × Nat) := do
  let value ← Double.rounded? value
  let divisor ← Double.rounded? (pow10 power, 1)
  Double.rounded? (value.1 * divisor.2, value.2 * divisor.1)

/-- The binary64 value of `significand * 10 ^ power`; `none` if it is out of range. A power
below the least one is divided away in two steps, and yields zero if two are not enough.
-/
def scale? (significand : Nat) (power : Int) : Option (Nat × Nat) :=
  if significand = 0 then some (0, 1)
  else if 0 ≤ power then
    if power ≤ greatestPower then scaleUp? (significand, 1) power.natAbs else none
  else if power.natAbs ≤ greatestPower then scaleDown? (significand, 1) power.natAbs
  else if power.natAbs ≤ 2 * greatestPower then do
    let reduced ← scaleDown? (significand, 1) greatestPower
    scaleDown? reduced (power.natAbs - greatestPower)
  else some (0, 1)

/-- The signed power of ten in the exponent. -/
def exponentValue (numeral : Numeral) : Int :=
  match numeral.exponent with
  | some (negative, digits) =>
      let n := Nat.ofDigitChars 10 digits 0
      if negative then -n else n
  | none => 0

/-- The numeral as a binary64 number. -/
def float? (numeral : Numeral) : Option Double := do
  let (wholePart, wholeRest) := takeDigits 0 numeral.whole
  let (significand, fractionRest) := takeDigits wholePart numeral.fraction
  let taken := numeral.fraction.length - fractionRest.length
  let power := (wholeRest.length : Int) - taken + numeral.exponentValue
  let magnitude ← scale? significand power
  return .ofRatio numeral.negative magnitude.1 magnitude.2

/-- The numeral as an integer, if it is written as one and fits: into sixty-four bits
without a sign, or as a negative number into sixty-four bits with one.
-/
def integer? (numeral : Numeral) : Option Int :=
  let n := Nat.ofDigitChars 10 numeral.whole 0
  if !numeral.fraction.isEmpty || numeral.exponent.isSome then none
  else if numeral.negative then
    if 0 < n && n ≤ pow2 63 then some (-n) else none
  else if n < pow2 64 then some n
  else none

/-- The number of a numeral; `none` if it is out of range. -/
def number? (numeral : Numeral) : Option Number :=
  match numeral.integer? with
  | some n => some (.integer n)
  | none => numeral.float?.map .float

end Numeral

end SqlCompiler.Json
