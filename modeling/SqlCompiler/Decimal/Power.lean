/-! The powers that binary and decimal numbers are scaled by. -/

namespace SqlCompiler.Decimal

/-- A power of two. -/
def pow2 (exponent : Nat) : Nat :=
  Nat.pow 2 exponent

/-- A power of ten. -/
def pow10 (exponent : Nat) : Nat :=
  Nat.pow 10 exponent

end SqlCompiler.Decimal
