import SqlCompiler.Json.Basic

/-! Query documents: queries as JSON. This is what a document says, before it is known
whether it makes sense.
-/

namespace SqlCompiler

/-- An entry of the select list. -/
inductive ColumnSpec
  | name (column : String)
  | aliased (column : String) (columnAlias : Option String)
  | raw (sql : String) (columnAlias : Option String)
deriving DecidableEq, Repr

/-- A join; the name of its kind may be anything. -/
structure JoinSpec where
  kind : Option String
  table : String
  condition : Option String
deriving DecidableEq, Repr

/-- A condition: a column, an operator and an operand, or a raw fragment. An alternative is
tied with `OR` to what stands before it.
-/
inductive CriterionSpec
  | predicate (column operator : String) (operand : Json) (alternative : Bool)
  | raw (sql : String)

/-- A sort column. -/
inductive OrderSpec
  | name (column : String)
  | directed (column : String) (direction : Option String)
deriving DecidableEq, Repr

/-- A query document. -/
structure Document where
  table : String
  tableAlias : Option String := none
  idColumn : Option String := none
  columns : List ColumnSpec := []
  values : List (String × Json) := []
  joins : List JoinSpec := []
  criteria : List CriterionSpec := []
  group : List String := []
  having : List CriterionSpec := []
  order : List OrderSpec := []
  limit : Json := .null
  offset : Json := .null
  flags : List String := []
  forUpdate : Bool := false
  returning : Option String := none

end SqlCompiler
