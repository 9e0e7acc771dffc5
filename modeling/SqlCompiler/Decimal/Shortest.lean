import SqlCompiler.Decimal.Double

/-! The shortest decimal of a binary64 number: of the decimals that read back as the number,
one with the fewest digits, and among those the nearest. Everything is decided by exact
comparisons of natural numbers. Two decimals that are equally near are possible, as for
`2 ^ 49 + 0.75`, and a number format says which one it takes.
-/

namespace SqlCompiler

/-- The decimal `0.d₁d₂… * 10 ^ point`; its digits are characters. -/
structure Decimal where
  digits : List Char
  point : Int
deriving DecidableEq, Repr

namespace Decimal

/-- Zero, as a decimal with one digit. -/
def zero : Decimal := ⟨['0'], 1⟩

/-- A number with the interval of reals that read back as it. All three are numerators over
one denominator; `closed` says that the ends belong to the interval.
-/
structure Interval where
  low : Nat
  value : Nat
  high : Nat
  denominator : Nat
  closed : Bool
deriving DecidableEq, Repr

/-- The interval around `mantissa * 2 ^ exponent`. It reaches half way to the neighbours on
both sides; below the least mantissa of a binade the neighbour is half as far. A tie is read
as the even mantissa, so the ends belong to an even one.
-/
def Interval.around (mantissa : Nat) (exponent : Int) : Interval :=
  let binadeStart : Bool := mantissa = pow2 52 && -1074 < exponent
  let quarter := Double.ratio 1 (exponent - 2)
  { low := (4 * mantissa - if binadeStart then 1 else 2) * quarter.1
    value := 4 * mantissa * quarter.1
    high := (4 * mantissa + 2) * quarter.1
    denominator := quarter.2
    closed := mantissa % 2 = 0 }

/-- The interval in units of `10 ^ power`. -/
def Interval.inUnits (interval : Interval) (power : Int) : Interval :=
  if power < 0 then
    { interval with
      low := interval.low * pow10 power.natAbs
      value := interval.value * pow10 power.natAbs
      high := interval.high * pow10 power.natAbs }
  else { interval with denominator := interval.denominator * pow10 power.natAbs }

/-- Which of two equally near decimals is taken: the one with an even last digit, or the one
that is larger in magnitude.
-/
inductive Tie
  | even
  | away
deriving DecidableEq, Repr

/-- The lower one of two neighbours is taken; `order` compares the distance to it with the
distance to the upper one.
-/
def Tie.takesLower (tie : Tie) (lower : Nat) : (order : Ordering) → Bool
  | .lt => true
  | .eq => tie = even && lower % 2 = 0
  | .gt => false

/-- An integer lies in the interval. -/
def Interval.contains (interval : Interval) (n : Nat) : Bool :=
  let scaled := n * interval.denominator
  if interval.closed then interval.low ≤ scaled && scaled ≤ interval.high
  else interval.low < scaled && scaled < interval.high

/-- The integer of the interval that is nearest to its number. If the interval contains an
integer, it contains one of the two neighbours of the number.
-/
def Interval.nearestInteger? (tie : Tie) (interval : Interval) : Option Nat :=
  let lower := interval.value / interval.denominator
  let order := compare (2 * (interval.value % interval.denominator)) interval.denominator
  match interval.contains lower, interval.contains (lower + 1) with
  | true, true => some (if tie.takesLower lower order then lower else lower + 1)
  | true, false => some lower
  | false, true => some (lower + 1)
  | false, false => none

/-- The decimal `n * 10 ^ power`, without zeros at its end. -/
def ofScaled (n : Nat) (power : Int) : Decimal :=
  let digits := Nat.toDigits 10 n
  ⟨(digits.reverse.dropWhile (· = '0')).reverse, power + digits.length⟩

/-- The number of digits before the decimal point of `numerator / denominator`; below one
tenth it is negative, and counts the zeros that follow the point.
-/
def pointOf (numerator denominator : Nat) : Int :=
  if denominator ≤ numerator then (Nat.toDigits 10 (numerator / denominator)).length
  else 1 - (Nat.toDigits 10 ((denominator - 1) / numerator)).length

/-- Seventeen digits tell any two binary64 numbers apart. -/
def mostDigits : Nat := 17

/-- The shortest decimal of the positive number `mantissa * 2 ^ exponent`: the first grid of
one, two, … digits that meets the interval around the number supplies it.
-/
def shortest (tie : Tie) (mantissa : Nat) (exponent : Int) : Decimal :=
  let interval := Interval.around mantissa exponent
  let point := pointOf interval.value interval.denominator
  let onGrid (count : Nat) : Option Decimal :=
    let power := point - (count + 1)
    ((interval.inUnits power).nearestInteger? tie).map (ofScaled · power)
  ((List.range mostDigits).findSome? onGrid).getD zero

/-- The shortest decimal of `mantissa * 2 ^ exponent`, zero included. -/
def ofBinary (tie : Tie) (mantissa : Nat) (exponent : Int) : Decimal :=
  if mantissa = 0 then zero else shortest tie mantissa exponent

end Decimal

end SqlCompiler
