import SqlCompiler.Decimal.Layout
import SqlCompiler.Text.Delimited
import SqlCompiler.Value.Basic

/-! SQL literals: the text that stands for a value in logs and in `LIKE` patterns. -/

namespace SqlCompiler.SqlValue

/-- Numbers in literals never have an exponent, and a whole number has no point. Of two
equally near decimals the larger one is written.
-/
def floatLayout : Decimal.Layout where
  tie := .away
  positional := fun _ => true
  wholeMark := []

/-- The literal of a binary64 number. -/
def floatLiteral (x : Double) : String :=
  match x.form with
  | .nan => "NaN"
  | .infinite negative => if negative then "-inf" else "inf"
  | .finite negative mantissa exponent =>
      Decimal.writeBinary floatLayout negative mantissa exponent

/-- A digit of a hexadecimal literal. -/
def hexDigit (n : Nat) : Char :=
  (Nat.digitChar n).toUpper

/-- The quote around text and blob literals. -/
def literalQuote : Char := '\x27'

/-- The literal of a blob: its bytes, two hexadecimal digits each. -/
def blobLiteral (bytes : List UInt8) : String :=
  let digits := bytes.flatMap fun byte =>
    [hexDigit (byte.toNat / 16), hexDigit (byte.toNat % 16)]
  String.ofList ('X' :: literalQuote :: (digits ++ [literalQuote]))

/-- The literal of a value. -/
def literal : SqlValue → String
  | .null => "NULL"
  | .bool true => "TRUE"
  | .bool false => "FALSE"
  | .int n => toString n.toInt
  | .float x => floatLiteral x
  | .text s => String.ofList (Text.delimit literalQuote s.toList)
  | .blob bytes => blobLiteral bytes

instance : ToString SqlValue := ⟨literal⟩

end SqlCompiler.SqlValue
