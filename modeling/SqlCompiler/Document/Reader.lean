import SqlCompiler.Document.Basic
import SqlCompiler.Json.Record

/-! Reading of query documents. A document and a join are records. A column, a condition and
a sort column come in several shapes: of the shapes that fit, the first one counts, and
members that the shape does not know are passed over.
-/

namespace SqlCompiler

namespace Json

/-- The members of an object, with the values that are read from so many further levels of
nesting. Repeated keys stay.
-/
def members? : (levels : Nat) → Tree → Option (List (String × Json))
  | levels + 1, .object members =>
      members.mapM fun (key, tree) => do return (← key, ← ofTree? levels tree)
  | _, _ => none

/-- The value of a member, if there is one; a repeated member fits no shape. -/
def member? (members : List (String × Json)) (key : String) : Option (Option Json) :=
  match members.filter fun pair => pair.1 = key with
  | [] => some none
  | [pair] => some (some pair.2)
  | _ => none

/-- A member that is a string. -/
def stringMember? (members : List (String × Json)) (key : String) : Option String := do
  match ← member? members key with
  | some (.string s) => some s
  | _ => none

/-- A member that is a string, null or missing. -/
def nullableMember? (members : List (String × Json)) (key : String)
    : Option (Option String) := do
  match ← member? members key with
  | some (.string s) => some (some s)
  | some .null => some none
  | none => some none
  | _ => none

end Json

open Json

namespace ColumnSpec

/-- The shape with a column name. -/
def aliased? (members : List (String × Json)) : Option ColumnSpec := do
  return aliased (← stringMember? members "column") (← nullableMember? members "as")

/-- The shape with a raw expression. -/
def raw? (members : List (String × Json)) : Option ColumnSpec := do
  return raw (← stringMember? members "raw") (← nullableMember? members "as")

/-- Reads an entry of the select list. -/
def ofTree? (levels : Nat) : Tree → Option ColumnSpec
  | .string text => text.map name
  | tree => do
      let members ← members? levels tree
      aliased? members <|> raw? members

end ColumnSpec

namespace CriterionSpec

/-- The shape with a column and an operator. -/
def predicate? (members : List (String × Json)) : Option CriterionSpec := do
  let column ← stringMember? members "column"
  let operator ← stringMember? members "op"
  let operand ← member? members "value"
  let alternative ←
    match ← member? members "or" with
    | some (.bool b) => some b
    | none => some false
    | _ => none
  return predicate column operator (operand.getD .null) alternative

/-- The shape with a raw fragment. -/
def raw? (members : List (String × Json)) : Option CriterionSpec :=
  (stringMember? members "raw").map raw

/-- Reads a condition. -/
def ofTree? (levels : Nat) (tree : Tree) : Option CriterionSpec := do
  let members ← members? levels tree
  predicate? members <|> raw? members

end CriterionSpec

namespace OrderSpec

/-- The shape with a direction. -/
def directed? (members : List (String × Json)) : Option OrderSpec := do
  return directed (← stringMember? members "column") (← nullableMember? members "direction")

/-- Reads a sort column. -/
def ofTree? (levels : Nat) : Tree → Option OrderSpec
  | .string text => text.map name
  | tree => do directed? (← members? levels tree)

end OrderSpec

namespace JoinSpec

/-- The fields of a join. -/
def fieldNames : List String := ["kind", "table", "on"]

/-- Reads a join. -/
def ofTree? (tree : Tree) : Option JoinSpec := do
  let fields ← tree.record? fieldNames false
  return {
    kind := ← optional? fields "kind" none (Tree.nullable? Tree.string?)
    table := ← required? fields "table" Tree.string?
    condition := ← optional? fields "on" none (Tree.nullable? Tree.string?) }

end JoinSpec

namespace Document

/-- The fields of a document. -/
def fieldNames : List String :=
  ["table", "alias", "id_column", "columns", "values", "joins", "where", "group", "having",
    "order", "limit", "offset", "flags", "for_update", "returning"]

/-- The levels of nesting that are left inside the document itself. -/
def fieldLevels : Nat := nestingLimit - 1

/-- The levels of nesting that are left inside a list of the document. -/
def itemLevels : Nat := nestingLimit - 2

/-- Reads an object with its members. -/
def valueMap? (tree : Tree) : Option (List (String × Json)) := do
  match ← Json.ofTree? fieldLevels tree with
  | .object members => some members
  | _ => none

/-- Reads a document. All fields but the table have defaults. -/
def ofTree? (tree : Tree) : Option Document := do
  let fields ← tree.record? fieldNames true
  let text? := Tree.nullable? Tree.string?
  let texts? := Tree.list? Tree.string?
  let criteria? := Tree.list? (CriterionSpec.ofTree? itemLevels)
  return {
    table := ← required? fields "table" Tree.string?
    tableAlias := ← optional? fields "alias" none text?
    idColumn := ← optional? fields "id_column" none text?
    columns := ← optional? fields "columns" [] (Tree.list? (ColumnSpec.ofTree? itemLevels))
    values := ← optional? fields "values" [] valueMap?
    joins := ← optional? fields "joins" [] (Tree.list? JoinSpec.ofTree?)
    criteria := ← optional? fields "where" [] criteria?
    group := ← optional? fields "group" [] texts?
    having := ← optional? fields "having" [] criteria?
    order := ← optional? fields "order" [] (Tree.list? (OrderSpec.ofTree? itemLevels))
    limit := ← optional? fields "limit" .null (Json.ofTree? fieldLevels)
    offset := ← optional? fields "offset" .null (Json.ofTree? fieldLevels)
    flags := ← optional? fields "flags" [] texts?
    forUpdate := ← optional? fields "for_update" false Tree.bool?
    returning := ← optional? fields "returning" none text? }

/-- The document in a JSON text. -/
def ofText? (text : String) : Option Document :=
  (Tree.ofText? text).bind ofTree?

end Document

end SqlCompiler
