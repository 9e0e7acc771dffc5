import SqlCompiler.Decimal.Shortest

/-! The written form of a decimal. A format decides which decimals are written with an
exponent and how a whole number is marked; this module holds what all formats share.
-/

namespace SqlCompiler.Decimal

/-- The decisions of a number format. -/
structure Layout where
  /-- Which of two equally near shortest decimals is written. -/
  tie : Tie
  /-- A number `d.d… * 10 ^ e` is written without an exponent for these `e`. -/
  positional : Int → Bool
  /-- Written after a whole number that has no exponent. -/
  wholeMark : List Char

/-- Some zeros. -/
def zeros (count : Nat) : List Char :=
  List.replicate count '0'

/-- The decimal written out in place, with zeros where it has no digits. -/
def writePositional (wholeMark : List Char) (d : Decimal) : List Char :=
  if d.point ≤ 0 then '0' :: '.' :: (zeros d.point.natAbs ++ d.digits)
  else
    let whole := d.digits.take d.point.natAbs
    let fraction := d.digits.drop d.point.natAbs
    if fraction.isEmpty then
      whole ++ zeros (d.point.natAbs - d.digits.length) ++ wholeMark
    else whole ++ '.' :: fraction

/-- The decimal as one digit, a fraction if there are more digits, and a signed exponent. -/
def writeScientific (d : Decimal) : List Char :=
  let exponent := d.point - 1
  let fraction := d.digits.drop 1
  d.digits.take 1 ++ (if fraction.isEmpty then [] else '.' :: fraction)
    ++ 'e' :: (if exponent < 0 then '-' else '+') :: Nat.toDigits 10 exponent.natAbs

/-- The decimal in a given format. -/
def write (layout : Layout) (d : Decimal) : List Char :=
  if layout.positional (d.point - 1) then writePositional layout.wholeMark d
  else writeScientific d

/-- A finite number in a given format: its sign and its shortest decimal. -/
def writeBinary (layout : Layout) (negative : Bool) (mantissa : Nat) (exponent : Int)
    : String :=
  String.ofList
    ((if negative then ['-'] else [])
      ++ (ofBinary layout.tie mantissa exponent).write layout)

end SqlCompiler.Decimal
