import SqlCompiler.Document.Basic
import SqlCompiler.Query.Basic

/-! The queries that documents describe. What makes no sense is refused with the place where
it stands; of several such places the first counts, in the order values, joins, criteria,
criteria for groups.
-/

namespace SqlCompiler

/-- Why a JSON value is no value of a statement. -/
inductive ValueFault
  | malformedObject
  | nestedList
deriving DecidableEq, Repr

/-- The message for a fault. -/
def ValueFault.message : ValueFault → String
  | malformedObject => "objects must look like \x7b\"raw\": \"...\"\x7d"
  | nestedList => "nested lists are not supported"

/-- Why a condition is refused. -/
inductive CriterionFault
  | operand (column : String) (fault : ValueFault)
  | relation (error : CompileError)
deriving DecidableEq, Repr

/-- The messages for a fault, from the outside in. -/
def CriterionFault.chain : CriterionFault → List String
  | operand column fault => ["operand for column '" ++ column ++ "'", fault.message]
  | relation error => [error.message]

/-- Why a document is refused. -/
inductive DocumentError
  | value (column : String) (fault : ValueFault)
  | unknownJoinKind (name : String)
  | criteria (fault : CriterionFault)
  | having (fault : CriterionFault)
deriving DecidableEq, Repr

namespace DocumentError

/-- The messages for an error, from the outside in. -/
def chain : DocumentError → List String
  | value column fault => ["value for column '" ++ column ++ "'", fault.message]
  | unknownJoinKind name => ["unknown join kind '" ++ name ++ "'"]
  | criteria fault => "in \"where\"" :: fault.chain
  | having fault => "in \"having\"" :: fault.chain

/-- The refused relation at the root of an error, if that is what it comes from. -/
def root? : DocumentError → Option CompileError
  | criteria (.relation error) => some error
  | having (.relation error) => some error
  | _ => none

end DocumentError

namespace Value

/-- The SQL value of a number. Integers of up to sixty-four bits stay integers. -/
def ofNumber : Json.Number → SqlValue
  | .integer n =>
      if Int64.minValue.toInt ≤ n && n ≤ Int64.maxValue.toInt then .int (.ofInt n)
      else .float (.ofInt n)
  | .float x => .float x

/-- The value that a JSON value stands for: a scalar is bound, and an object with the single
member `raw` is a raw fragment.
-/
def ofJson : Json → Except ValueFault Value
  | .null => .ok (.bind .null)
  | .bool b => .ok (.bind (.bool b))
  | .number n => .ok (.bind (ofNumber n))
  | .string s => .ok (.bind (.text s))
  | .object [("raw", .string sql)] => .ok (.raw sql)
  | .object _ => .error .malformedObject
  | .array _ => .error .nestedList

end Value

/-- The operand that a JSON value stands for; an array is a list. -/
def Operand.ofJson : Json → Except ValueFault Operand
  | .array items => (items.mapM Value.ofJson).map .list
  | json => (Value.ofJson json).map .single

namespace Document

/-- Adds the condition of a document to criteria. The operand comes before the operator. -/
def addCriterion (criteria : Criteria) : CriterionSpec → Except CriterionFault Criteria
  | .raw sql => .ok (criteria.pushRaw sql)
  | .predicate column operator json alternative => do
      let operand ← (Operand.ofJson json).mapError (.operand column)
      let connector := if alternative then Connector.or else Connector.and
      (criteria.pushCondition column operator operand connector).mapError .relation

/-- The criteria that conditions of a document describe. -/
def toCriteria (specs : List CriterionSpec) : Except CriterionFault Criteria :=
  specs.foldlM addCriterion .empty

/-- The kind of join that a name stands for, in any case of its letters. -/
def joinKind : Option String → Except DocumentError JoinKind
  | none => .ok .inner
  | some name =>
      let name := String.ofList (Text.lower name.toList)
      match name with
      | "inner" => .ok .inner
      | "left" => .ok .left
      | "right" => .ok .right
      | "cross" => .ok .cross
      | _ => .error (.unknownJoinKind name)

/-- The join that a document describes. A cross join has no condition. -/
def toJoin (spec : JoinSpec) : Except DocumentError Join := do
  let kind ← joinKind spec.kind
  return .ofText kind spec.table (if kind = .cross then none else spec.condition)

/-- The select list entry that a document describes. -/
def toColumn : ColumnSpec → SelectColumn
  | .name column => { expr := .name column, columnAlias := none }
  | .aliased column columnAlias => { expr := .name column, columnAlias }
  | .raw sql columnAlias => { expr := .raw sql, columnAlias }

/-- The sort column that a document describes. -/
def toSortColumn : OrderSpec → String × Direction
  | .name column => (column, .asc)
  | .directed column direction => (column, direction.elim .asc Direction.ofName)

/-- The column value that a document describes. -/
def toAssignment (member : String × Json) : Except DocumentError (String × Value) := do
  let value ← (Value.ofJson member.2).mapError (.value member.1)
  return (member.1, value)

/-- The count that a JSON value stands for: an integer of up to sixty-three bits or the text
of a count.
-/
def toCount : Json → Option UInt64
  | .number (.integer n) => if n ≤ Int64.maxValue.toInt then Count.ofInt? n else none
  | .string s => toCount? s
  | _ => none

/-- The query that a document describes, with a binder for its placeholders. -/
def toQuery (document : Document) (binder : Binder) : Except DocumentError Query := do
  let values ← document.values.mapM toAssignment
  let joins ← document.joins.mapM toJoin
  let criteria ← (toCriteria document.criteria).mapError .criteria
  let having ← (toCriteria document.having).mapError .having
  return {
    table := document.table
    tableAlias := document.tableAlias
    idColumn := document.idColumn
    columns := document.columns.map toColumn
    values := OrderedMap.ofList values
    joins
    criteria
    group := document.group
    having
    order := document.order.map toSortColumn
    limit := toCount document.limit
    offset := (toCount document.offset).getD 0
    flags := document.flags
    forUpdate := document.forUpdate
    returning := document.returning
    binder }

end Document

end SqlCompiler
