import SqlCompiler.Criteria.Basic
import SqlCompiler.Value.Literal

/-! Conditions in the making: a column has been named, its relation is still to come. The
same relations serve criteria on their own and the criteria inside a query.
-/

namespace SqlCompiler

/-- A column that waits for its relation; `add` puts the finished predicate in its place. -/
structure Condition (α : Type) where
  column : String
  connector : Connector
  add : Predicate → α

namespace Condition

variable {α : Type}

/-- Completes the condition. -/
def relate (condition : Condition α) (relation : Relation) : α :=
  condition.add
    { column := condition.column, relation, connector := condition.connector }

/-- The column equals a value, or is in a list. -/
def eq (condition : Condition α) (operand : Operand) : α :=
  condition.relate (.equals operand)

/-- The column differs from a value, or is not in a list. -/
def ne (condition : Condition α) (operand : Operand) : α :=
  condition.relate (.differs operand)

/-- The column is less than a value. -/
def lt (condition : Condition α) (value : Value) : α :=
  condition.relate (.compare .lt value)

/-- The column is at most a value. -/
def le (condition : Condition α) (value : Value) : α :=
  condition.relate (.compare .le value)

/-- The column is greater than a value. -/
def gt (condition : Condition α) (value : Value) : α :=
  condition.relate (.compare .gt value)

/-- The column is at least a value. -/
def ge (condition : Condition α) (value : Value) : α :=
  condition.relate (.compare .ge value)

/-- The column is one of some values. -/
def isIn (condition : Condition α) (values : List Value) : α :=
  condition.relate (.isIn values)

/-- The column is none of some values. -/
def notIn (condition : Condition α) (values : List Value) : α :=
  condition.relate (.notIn values)

/-- The column lies between two values. -/
def between (condition : Condition α) (low high : Value) : α :=
  condition.relate (.between low high)

/-- The column matches a pattern. -/
def like (condition : Condition α) (pattern : Value) : α :=
  condition.relate (.like pattern)

/-- The column contains the text of something. -/
def contains {β : Type} [ToString β] (condition : Condition α) (part : β) : α :=
  condition.like (.of ("%" ++ toString part ++ "%"))

/-- The column starts with the text of something. -/
def startsWith {β : Type} [ToString β] (condition : Condition α) (part : β) : α :=
  condition.like (.of (toString part ++ "%"))

/-- The column ends with the text of something. -/
def endsWith {β : Type} [ToString β] (condition : Condition α) (part : β) : α :=
  condition.like (.of ("%" ++ toString part))

/-- The column is null. -/
def isNull (condition : Condition α) : α :=
  condition.relate .isNull

/-- The column is not null. -/
def isNotNull (condition : Condition α) : α :=
  condition.relate .isNotNull

end Condition

namespace Criteria

/-- Starts a condition that is tied with `AND`. -/
def column (criteria : Criteria) (column : String) : Condition Criteria :=
  { column, connector := .and, add := criteria.pushPredicate }

/-- Starts a condition that is tied with `OR`. -/
def orColumn (criteria : Criteria) (column : String) : Condition Criteria :=
  { column, connector := .or, add := criteria.pushPredicate }

end Criteria

end SqlCompiler
