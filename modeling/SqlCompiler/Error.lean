import SqlCompiler.Dialect
import SqlCompiler.Statement.Kind

/-! The causes for which a predicate, a configuration or a statement is refused. -/

namespace SqlCompiler

/-- Why something cannot be compiled. -/
inductive CompileError
  /-- The keyword names no relation. -/
  | unknownRelation (keyword : String)
  /-- The keyword, in normal form, compares with one value, but a list was given. -/
  | listForScalar (keyword : String) (count : Nat)
  /-- `BETWEEN` takes two values. -/
  | malformedBetween (column : String) (count : Nat)
  /-- A value has to be bound, and there is no binder. -/
  | missingBinder (column : String)
  /-- The dialect has no row locks. -/
  | rowLockUnavailable (dialect : Dialect)
  /-- An `INSERT` or `UPDATE` has no column values. -/
  | missingValues (statement : StatementKind)
  /-- The placeholder prefix is empty or has characters it may not have. -/
  | invalidPlaceholderPrefix (text : String)
  /-- A configuration text cannot be read. -/
  | malformedConfig
deriving DecidableEq, Repr

/-- The message for a cause. -/
def CompileError.message : CompileError → String
  | unknownRelation keyword => "unsupported relation: " ++ keyword
  | listForScalar keyword count =>
      "unsupported relation: " ++ keyword ++ " with a list of " ++ toString count ++ " values"
  | malformedBetween column count =>
      "BETWEEN on '" ++ column ++ "' needs exactly two values, got " ++ toString count
  | missingBinder column =>
      "predicate on '" ++ column ++ "' needs a binder to hold its value"
  | rowLockUnavailable dialect =>
      "FOR UPDATE is not available for the " ++ dialect.name ++ " dialect"
  | missingValues statement => statement.name ++ " needs at least one column value"
  | invalidPlaceholderPrefix text =>
      "invalid configuration: placeholder prefix '" ++ text
        ++ "' must be non-empty and use [A-Za-z0-9_]"
  | malformedConfig => "invalid configuration"

end SqlCompiler
