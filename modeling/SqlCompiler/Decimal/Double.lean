import SqlCompiler.Decimal.Power

/-! Binary64 numbers, held as their bits: what number the bits stand for, and the binary64
number nearest to a ratio. All arithmetic is on natural numbers and exact.
-/

namespace SqlCompiler

open Decimal (pow2)

/-- A binary64 number. -/
structure Double where
  bits : UInt64
deriving DecidableEq, Repr

namespace Double

/-- What the bits of a number stand for; a finite number is `mantissa * 2 ^ exponent` with
its sign.
-/
inductive Form
  | nan
  | infinite (negative : Bool)
  | finite (negative : Bool) (mantissa : Nat) (exponent : Int)
deriving DecidableEq, Repr

/-- Reads the sign bit, the eleven exponent bits and the fifty-two fraction bits. -/
def form (x : Double) : Form :=
  let bits : Nat := x.bits.toNat
  let negative : Bool := pow2 63 ≤ bits
  let field : Nat := bits / pow2 52 % pow2 11
  let fraction := bits % pow2 52
  if field = 2047 then
    if fraction = 0 then .infinite negative else .nan
  else if field = 0 then .finite negative fraction (-1074)
  else .finite negative (pow2 52 + fraction) ((field : Int) - 1075)

/-- The number whose magnitude has these bits, with the given sign. -/
def ofMagnitudeBits (negative : Bool) (bits : Nat) : Double :=
  ⟨UInt64.ofNat (if negative then pow2 63 + bits else bits)⟩

/-- The magnitude bits of infinity; finite magnitudes have smaller ones. -/
def infinityBits : Nat := 2047 * pow2 52

/-- Not a number. -/
def nan : Double := ofMagnitudeBits false (infinityBits + pow2 51)

/-- The ratio `mantissa * 2 ^ exponent` as numerator and denominator. -/
def ratio (mantissa : Nat) (exponent : Int) : Nat × Nat :=
  if exponent < 0 then (mantissa, pow2 exponent.natAbs)
  else (mantissa * pow2 exponent.natAbs, 1)

/-- The integer nearest to `numerator / denominator`; a tie goes to the even one. -/
def roundDiv (numerator denominator : Nat) : Nat :=
  let quotient := numerator / denominator
  let rest := numerator % denominator
  if 2 * rest < denominator then quotient
  else if denominator < 2 * rest then quotient + 1
  else quotient + quotient % 2

/-- The exponent of the binary64 grid on which `numerator / denominator` is rounded: there
the ratio is below `2 ^ 53`, and at least `2 ^ 52` unless the grid is the finest one.
-/
def gridExponent (numerator denominator : Nat) : Int :=
  let low : Int := (numerator.log2 : Int) - denominator.log2 - 53
  let unit := ratio 1 low
  let above : Bool := pow2 53 * (denominator * unit.1) ≤ numerator * unit.2
  max (-1074) (if above then low + 1 else low)

/-- The magnitude bits of the binary64 number nearest to a positive ratio; a tie goes to
the even mantissa, and what is too large goes to infinity. A mantissa that is rounded up to
`2 ^ 53` carries into the exponent bits, as it should.
-/
def nearestBits (numerator denominator : Nat) : Nat :=
  let exponent := gridExponent numerator denominator
  let unit := ratio 1 exponent
  let mantissa := roundDiv (numerator * unit.2) (denominator * unit.1)
  min ((exponent + 1074).toNat * pow2 52 + mantissa) infinityBits

/-- The binary64 number nearest to `numerator / denominator`, with the given sign. -/
def ofRatio (negative : Bool) (numerator denominator : Nat) : Double :=
  ofMagnitudeBits negative
    (if numerator = 0 then 0 else nearestBits numerator denominator)

/-- The ratio as binary64 has it; `none` if it is rounded to infinity. -/
def rounded? (value : Nat × Nat) : Option (Nat × Nat) :=
  match (ofRatio false value.1 value.2).form with
  | .finite _ mantissa exponent => some (ratio mantissa exponent)
  | .infinite _ => none
  | .nan => none

/-- The binary64 number nearest to an integer. -/
def ofInt (n : Int) : Double :=
  ofRatio (n < 0) n.natAbs 1

end Double

/-- A binary32 number. -/
structure Single where
  bits : UInt32
deriving DecidableEq, Repr

/-- The binary64 number equal to a binary32 number. -/
def Single.toDouble (x : Single) : Double :=
  let bits : Nat := x.bits.toNat
  let negative : Bool := pow2 31 ≤ bits
  let field : Nat := bits / pow2 23 % pow2 8
  let fraction := bits % pow2 23
  if field = 255 then
    if fraction = 0 then .ofMagnitudeBits negative Double.infinityBits else .nan
  else
    let finite :=
      if field = 0 then Double.ratio fraction (-149)
      else Double.ratio (pow2 23 + fraction) ((field : Int) - 150)
    .ofRatio negative finite.1 finite.2

end SqlCompiler
