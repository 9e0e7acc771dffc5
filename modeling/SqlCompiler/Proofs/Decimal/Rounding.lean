import Mathlib.Data.Nat.Log
import Mathlib.Tactic.Ring
import SqlCompiler.Decimal.Double

/-! Rounding on the grid of binary64. On its grid a ratio is below `2 ^ 53`, so a magnitude that
binary64 has is not rounded away to infinity, and neither is an integer of sixty-four bits.
-/

namespace SqlCompiler.Double

open Decimal (pow2)

/-- The number is neither infinite nor not a number. -/
def IsFinite (x : Double) : Prop :=
  ∃ negative mantissa exponent, x.form = .finite negative mantissa exponent

/-- The ratio is the magnitude of a finite number. -/
def IsMagnitude (value : Nat × Nat) : Prop :=
  ∃ mantissa exponent,
    mantissa < 2 ^ 53
    ∧ -1074 ≤ exponent
    ∧ exponent ≤ 971
    ∧ value = ratio mantissa exponent

-----------------------------------------------------------------------------------------
-- Powers of two as ratios
-----------------------------------------------------------------------------------------

theorem pow2_eq (exponent : Nat) : pow2 exponent = 2 ^ exponent := rfl

theorem ratio_pos (mantissa : Nat) (exponent : Int) : 0 < (ratio mantissa exponent).2 := by
  rw [ratio]
  split
  · exact Nat.two_pow_pos _
  · exact Nat.one_pos

theorem unit_pos (exponent : Int) : 0 < (ratio 1 exponent).1 := by
  rw [ratio]
  split
  · exact Nat.one_pos
  · simp [pow2_eq]

/-- On a finer grid the mantissa is larger by a power of two, by cases on the signs of the two
exponents.
-/
theorem ratio_mul_unit (mantissa : Nat) {coarse fine : Int} (finer : fine ≤ coarse)
    : (ratio mantissa coarse).1 * (ratio 1 fine).2
      = mantissa * 2 ^ (coarse - fine).toNat * ((ratio mantissa coarse).2 * (ratio 1 fine).1) := by
  by_cases negative : coarse < 0
  · have both : fine < 0 := by omega
    have exponents : fine.natAbs = (coarse - fine).toNat + coarse.natAbs := by omega
    simp only [ratio, negative, both, reduceIte, pow2_eq, exponents, pow_add]
    ring
  · by_cases fraction : fine < 0
    · have exponents : (coarse - fine).toNat = coarse.natAbs + fine.natAbs := by omega
      simp only [ratio, negative, fraction, reduceIte, pow2_eq, exponents, pow_add]
      ring
    · have exponents : coarse.natAbs = (coarse - fine).toNat + fine.natAbs := by omega
      simp only [ratio, negative, fraction, reduceIte, pow2_eq, exponents, pow_add]
      ring

/-- What is below a bound on a grid is below it on every coarser grid. -/
theorem lt_of_finer {numerator denominator bound : Nat} {coarse fine : Int}
    (finer : fine ≤ coarse)
    (below : numerator * (ratio 1 fine).2 < bound * (denominator * (ratio 1 fine).1))
    : numerator * (ratio 1 coarse).2 < bound * (denominator * (ratio 1 coarse).1) := by
  have units := ratio_mul_unit 1 finer
  rw [one_mul] at units
  have larger : 1 ≤ 2 ^ (coarse - fine).toNat := Nat.one_le_two_pow
  refine Nat.lt_of_mul_lt_mul_right (a := (ratio 1 fine).2) ?_
  calc numerator * (ratio 1 coarse).2 * (ratio 1 fine).2
      = numerator * (ratio 1 fine).2 * (ratio 1 coarse).2 := by ring
    _ < bound * (denominator * (ratio 1 fine).1) * (ratio 1 coarse).2 :=
        Nat.mul_lt_mul_of_pos_right below (ratio_pos 1 coarse)
    _ ≤ 2 ^ (coarse - fine).toNat
          * (bound * (denominator * (ratio 1 fine).1) * (ratio 1 coarse).2) :=
        Nat.le_mul_of_pos_left _ larger
    _ = bound * denominator * ((ratio 1 coarse).1 * (ratio 1 fine).2) := by
        rw [units]
        ring
    _ = bound * (denominator * (ratio 1 coarse).1) * (ratio 1 fine).2 := by ring

-----------------------------------------------------------------------------------------
-- The grid of a ratio
-----------------------------------------------------------------------------------------

/-- A ratio is below `2 ^ 53` if the exponent of the grid is the difference of the logarithms, less
fifty-two.
-/
theorem lt_of_log2 {numerator denominator : Nat} (positive : 0 < denominator)
    : let unit := ratio 1 ((numerator.log2 : Int) - denominator.log2 - 52)
      numerator * unit.2 < 2 ^ 53 * (denominator * unit.1) := by
  intro unit
  have scale
      : 2 ^ (numerator.log2 + 1) * unit.2 = 2 ^ 53 * (2 ^ denominator.log2 * unit.1) := by
    simp only [unit, ratio]
    split
    · simp only [pow2_eq, mul_one, ← pow_add]
      congr 1
      omega
    · simp only [pow2_eq, mul_one, one_mul, ← pow_add]
      congr 1
      omega
  calc numerator * unit.2
      < 2 ^ (numerator.log2 + 1) * unit.2 :=
        Nat.mul_lt_mul_of_pos_right Nat.lt_log2_self (ratio_pos 1 _)
    _ = 2 ^ 53 * (2 ^ denominator.log2 * unit.1) := scale
    _ ≤ 2 ^ 53 * (denominator * unit.1) := by
        gcongr
        exact Nat.log2_self_le positive.ne'

/-- The grid is the one that the logarithms say, or the next finer one if the ratio is below
`2 ^ 53` on that, unless it is too fine.
-/
theorem gridExponent_cases (numerator denominator : Nat)
    : let high : Int := numerator.log2 - denominator.log2 - 52
      let unit := ratio 1 (high - 1)
      gridExponent numerator denominator = max (-1074) high
      ∨ gridExponent numerator denominator = max (-1074) (high - 1)
        ∧ numerator * unit.2 < 2 ^ 53 * (denominator * unit.1) := by
  intro high unit
  have low : (numerator.log2 : Int) - denominator.log2 - 53 = high - 1 := by omega
  rw [gridExponent, low]
  by_cases above : pow2 53 * (denominator * unit.1) ≤ numerator * unit.2
  · left
    simp only [unit] at above
    simp [above]
  · right
    refine ⟨?_, Nat.lt_of_not_le above⟩
    simp only [unit] at above
    simp [above]

/-- On its grid a ratio is below `2 ^ 53`. -/
theorem lt_of_gridExponent {numerator denominator : Nat} (positive : 0 < denominator)
    : let unit := ratio 1 (gridExponent numerator denominator)
      numerator * unit.2 < 2 ^ 53 * (denominator * unit.1) := by
  intro unit
  rcases gridExponent_cases numerator denominator with coarse | ⟨fine, below⟩
  · simp only [unit, coarse]
    exact lt_of_finer (le_max_right _ _) (lt_of_log2 positive)
  · simp only [unit, fine]
    exact lt_of_finer (le_max_right _ _) below

theorem gridExponent_le (numerator denominator : Nat)
    : gridExponent numerator denominator
      ≤ max (-1074) ((numerator.log2 : Int) - denominator.log2 - 52) := by
  have cases := gridExponent_cases numerator denominator
  omega

-----------------------------------------------------------------------------------------
-- Mantissas
-----------------------------------------------------------------------------------------

/-- Rounding does not pass an integer that the ratio is below. -/
theorem roundDiv_le {numerator denominator bound : Nat} (below : numerator < bound * denominator)
    : roundDiv numerator denominator ≤ bound := by
  have quotient : numerator / denominator < bound := Nat.div_lt_of_lt_mul (by rwa [mul_comm])
  rw [roundDiv]
  split
  · omega
  · split <;> omega

theorem roundDiv_mul (quotient : Nat) {denominator : Nat} (positive : 0 < denominator)
    : roundDiv (quotient * denominator) denominator = quotient := by
  simp [roundDiv, positive]

/-- The grid of a magnitude is at least as fine as the magnitude is written on. -/
theorem gridExponent_ratio_le {mantissa : Nat} {exponent : Int} (small : mantissa < 2 ^ 53)
    (lower : -1074 ≤ exponent) (nonzero : mantissa ≠ 0)
    : gridExponent (ratio mantissa exponent).1 (ratio mantissa exponent).2 ≤ exponent := by
  have grid := gridExponent_le (ratio mantissa exponent).1 (ratio mantissa exponent).2
  have bits : mantissa.log2 < 53 := (Nat.log2_lt nonzero).mpr small
  by_cases negative : exponent < 0
  · simp only [ratio, negative, reduceIte, pow2_eq, Nat.log2_two_pow] at grid ⊢
    omega
  · have scaled : (mantissa * 2 ^ exponent.natAbs).log2 < 53 + exponent.natAbs := by
      refine (Nat.log2_lt (Nat.mul_ne_zero nonzero (Nat.two_pow_pos _).ne')).mpr ?_
      rw [pow_add]
      exact Nat.mul_lt_mul_of_pos_right small (Nat.two_pow_pos _)
    have one : Nat.log2 1 = 0 := by decide
    simp only [ratio, negative, reduceIte, pow2_eq, one] at grid ⊢
    omega

/-- A magnitude that binary64 has keeps below infinity: it is on its grid, so it is not rounded at
all.
-/
theorem nearestBits_lt_of_isMagnitude {value : Nat × Nat} (magnitude : IsMagnitude value)
    (nonzero : value.1 ≠ 0)
    : nearestBits value.1 value.2 < infinityBits := by
  obtain ⟨mantissa, exponent, small, lower, upper, rfl⟩ := magnitude
  have positive : mantissa ≠ 0 := by
    rintro rfl
    apply nonzero
    rw [ratio]
    split <;> simp
  have finer := gridExponent_ratio_le small lower positive
  have below := @lt_of_gridExponent (ratio mantissa exponent).1 _ (ratio_pos mantissa exponent)
  have unit := Nat.mul_pos (ratio_pos mantissa exponent)
    (unit_pos (gridExponent (ratio mantissa exponent).1 (ratio mantissa exponent).2))
  rw [nearestBits]
  generalize gridExponent (ratio mantissa exponent).1 (ratio mantissa exponent).2 = grid
    at finer below unit ⊢
  simp only [ratio_mul_unit mantissa finer] at below ⊢
  rw [roundDiv_mul _ unit]
  have bounded := Nat.lt_of_mul_lt_mul_right below
  simp only [infinityBits, pow2_eq]
  omega

/-- An integer of sixty-four bits keeps far below infinity. -/
theorem nearestBits_lt_of_integer {n : Nat} (small : n < 2 ^ 64)
    : nearestBits n 1 < infinityBits := by
  have bits : n.log2 < 64 := by
    by_cases zero : n = 0
    · simp [zero]
    · exact (Nat.log2_lt zero).mpr small
  have grid := gridExponent_le n 1
  have bounded := roundDiv_le (@lt_of_gridExponent n 1 Nat.one_pos)
  simp only [nearestBits, infinityBits, pow2_eq]
  omega

-----------------------------------------------------------------------------------------
-- Finite numbers
-----------------------------------------------------------------------------------------

theorem form_eq (x : Double)
    : let field : Nat := x.bits.toNat / 2 ^ 52 % 2 ^ 11
      let fraction := x.bits.toNat % 2 ^ 52
      let negative : Bool := 2 ^ 63 ≤ x.bits.toNat
      x.form
      = if field = 2047 then if fraction = 0 then .infinite negative else .nan
        else if field = 0 then .finite negative fraction (-1074)
        else .finite negative (2 ^ 52 + fraction) ((field : Int) - 1075) :=
  rfl

/-- A number is finite unless its exponent bits are all set. -/
theorem isFinite_of_field {x : Double} (notAll : x.bits.toNat / 2 ^ 52 % 2 ^ 11 ≠ 2047)
    : x.IsFinite := by
  simp only [IsFinite, form_eq, if_neg notAll]
  split <;> exact ⟨_, _, _, rfl⟩

theorem isFinite_ofMagnitudeBits (negative : Bool) {bits : Nat} (small : bits < infinityBits)
    : (ofMagnitudeBits negative bits).IsFinite := by
  have bounded : bits < 2047 * 2 ^ 52 := small
  apply isFinite_of_field
  cases negative with
  | false =>
      have whole : (ofMagnitudeBits false bits).bits.toNat = bits :=
        UInt64.toNat_ofNat_of_lt' (lt_trans bounded (by decide))
      omega
  | true =>
      have whole : (ofMagnitudeBits true bits).bits.toNat = 2 ^ 63 + bits :=
        UInt64.toNat_ofNat_of_lt' (lt_trans (Nat.add_lt_add_left bounded _) (by decide))
      omega

/-- A finite number has a mantissa of fifty-three bits on a grid between the two extremes. -/
theorem isMagnitude_of_form {x : Double} {negative : Bool} {mantissa : Nat} {exponent : Int}
    (finite : x.form = .finite negative mantissa exponent)
    : IsMagnitude (ratio mantissa exponent) := by
  have fraction : x.bits.toNat % 2 ^ 52 < 2 ^ 52 := Nat.mod_lt _ (Nat.two_pow_pos _)
  have field : x.bits.toNat / 2 ^ 52 % 2 ^ 11 < 2 ^ 11 := Nat.mod_lt _ (Nat.two_pow_pos _)
  rw [form_eq] at finite
  split at finite
  · split at finite <;> cases finite
  · split at finite
    · cases finite
      exact ⟨_, _, by omega, by omega, by omega, rfl⟩
    · cases finite
      exact ⟨_, _, by omega, by omega, by omega, rfl⟩

theorem isMagnitude_of_rounded? {value rounded : Nat × Nat} (ok : rounded? value = some rounded)
    : IsMagnitude rounded := by
  rw [rounded?] at ok
  split at ok
  case h_1 finite =>
    cases ok
    exact isMagnitude_of_form finite
  case h_2 => cases ok
  case h_3 => cases ok

/-- A magnitude stays what it is when it is given a sign. -/
theorem isFinite_ofRatio (negative : Bool) {value : Nat × Nat} (magnitude : IsMagnitude value)
    : (ofRatio negative value.1 value.2).IsFinite := by
  apply isFinite_ofMagnitudeBits
  split
  case isTrue => decide
  case isFalse nonzero => exact nearestBits_lt_of_isMagnitude magnitude nonzero

theorem isFinite_ofInt {n : Int} (small : n.natAbs < 2 ^ 64) : (ofInt n).IsFinite := by
  apply isFinite_ofMagnitudeBits
  split
  case isTrue => decide
  case isFalse => exact nearestBits_lt_of_integer small

end SqlCompiler.Double
