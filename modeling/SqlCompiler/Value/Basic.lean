import SqlCompiler.Decimal.Double

/-! The values that reach a statement: SQL values, which are bound to placeholders, and raw
fragments, which are written as they are.
-/

namespace SqlCompiler

/-- A value that a placeholder can stand for. -/
inductive SqlValue
  | null
  | bool (b : Bool)
  | int (n : Int64)
  | float (x : Double)
  | text (s : String)
  | blob (bytes : List UInt8)
deriving DecidableEq, Repr

/-- The types whose elements are SQL values. -/
class ToSqlValue (α : Type) where
  toSqlValue : α → SqlValue

export ToSqlValue (toSqlValue)

instance : ToSqlValue SqlValue := ⟨id⟩
instance : ToSqlValue Bool := ⟨.bool⟩
instance : ToSqlValue Int64 := ⟨.int⟩
instance : ToSqlValue Int32 := ⟨fun n => .int n.toInt64⟩
instance : ToSqlValue Int16 := ⟨fun n => .int n.toInt64⟩
instance : ToSqlValue Int8 := ⟨fun n => .int n.toInt64⟩
instance : ToSqlValue UInt32 := ⟨fun n => .int (.ofNat n.toNat)⟩
instance : ToSqlValue UInt16 := ⟨fun n => .int (.ofNat n.toNat)⟩
instance : ToSqlValue UInt8 := ⟨fun n => .int (.ofNat n.toNat)⟩
instance : ToSqlValue Double := ⟨.float⟩
instance : ToSqlValue Single := ⟨fun x => .float x.toDouble⟩
instance : ToSqlValue String := ⟨.text⟩

/-- An absent value is the SQL value `NULL`. -/
instance {α : Type} [ToSqlValue α] : ToSqlValue (Option α) where
  toSqlValue
    | some a => toSqlValue a
    | none => .null

/-- A value in a statement: bound to a placeholder, or a fragment that is written as it is. -/
inductive Value
  | bind (value : SqlValue)
  | raw (sql : String)
deriving DecidableEq, Repr

namespace Value

/-- The value that binds an element of an SQL-valued type. -/
def of {α : Type} [ToSqlValue α] (a : α) : Value :=
  .bind (toSqlValue a)

/-- The text of a raw fragment. -/
def raw? : Value → Option String
  | .bind _ => none
  | .raw sql => some sql

/-- The bound value; a raw fragment has none. -/
def bound? : Value → Option SqlValue
  | .bind value => some value
  | .raw _ => none

end Value

/-- What a relation compares a column with: one value, or a list of them. -/
inductive Operand
  | single (value : Value)
  | list (values : List Value)
deriving DecidableEq, Repr

/-- The values of an operand, a single one as a list of one. -/
def Operand.values : Operand → List Value
  | .single value => [value]
  | .list values => values

end SqlCompiler
