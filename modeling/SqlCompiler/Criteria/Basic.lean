import SqlCompiler.Criteria.Relation

/-! Criteria: the conditions behind `WHERE` and `HAVING`, as an ordered list of predicates
and raw fragments to which entries are only ever added.
-/

namespace SqlCompiler

/-- How a predicate is tied to what stands before it. -/
inductive Connector
  | and
  | or
deriving DecidableEq, Repr

instance : Inhabited Connector := ⟨.and⟩

/-- The keyword of a connector. -/
def Connector.keyword : Connector → String
  | and => "AND"
  | or => "OR"

/-- A relation asserted of a column. -/
structure Predicate where
  column : String
  relation : Relation
  connector : Connector
deriving DecidableEq, Repr

/-- An entry of the criteria. A raw fragment is tied to what stands before it with `AND`. -/
inductive Entry
  | predicate (predicate : Predicate)
  | raw (sql : String)
deriving DecidableEq, Repr

/-- Conditions in the order they were added in. -/
structure Criteria where
  entries : List Entry := []
deriving DecidableEq, Repr, Inhabited

namespace Criteria

/-- The criteria without conditions. -/
def empty : Criteria := {}

/-- Adds an entry behind all others. -/
def push (criteria : Criteria) (entry : Entry) : Criteria :=
  ⟨criteria.entries ++ [entry]⟩

/-- Adds a predicate. -/
def pushPredicate (criteria : Criteria) (predicate : Predicate) : Criteria :=
  criteria.push (.predicate predicate)

/-- Adds a raw fragment. -/
def pushRaw (criteria : Criteria) (sql : String) : Criteria :=
  criteria.push (.raw sql)

/-- Adds the predicate that a keyword and an operand describe. -/
def pushCondition (criteria : Criteria) (column keyword : String) (operand : Operand)
    (connector : Connector := .and) : Except CompileError Criteria := do
  let relation ← Relation.ofKeyword column keyword operand
  return criteria.pushPredicate { column, relation, connector }

/-- The number of entries. -/
def size (criteria : Criteria) : Nat :=
  criteria.entries.length

/-- There are no entries. -/
def isEmpty (criteria : Criteria) : Bool :=
  criteria.entries.isEmpty

end Criteria

end SqlCompiler
