import SqlCompiler.Criteria.Basic
import SqlCompiler.Template

/-! The templates of criteria. Every entry but the first that yields text is preceded by its
connector; entries that yield no text are skipped.
-/

namespace SqlCompiler

/-- The values of a list, separated by commas. -/
def Template.ofValues (column : String) (values : List Value) : Template :=
  .join ", " (values.map (.ofValue column))

/-- The template of a predicate. Membership in the empty list never holds, and its denial
always does, whatever the column.
-/
def Predicate.template (predicate : Predicate) : Template :=
  let column := Piece.name predicate.column
  let value := Template.ofValue predicate.column
  let list := Template.ofValues predicate.column
  match predicate.relation with
  | .compare op v => column :: .text (" " ++ op.symbol ++ " ") :: value v
  | .like pattern => column :: .text " LIKE " :: value pattern
  | .isIn [] => [.text "1 = 0"]
  | .notIn [] => [.text "1 = 1"]
  | .isIn values => column :: .text " IN ( " :: (list values ++ [.text " )"])
  | .notIn values => column :: .text " NOT IN ( " :: (list values ++ [.text " )"])
  | .between low high =>
      column :: .text " BETWEEN " :: (value low ++ .text " AND " :: value high)
  | .isNull => [column, .text " IS NULL"]
  | .isNotNull => [column, .text " IS NOT NULL"]

namespace Entry

/-- The connectors that a raw fragment may start with, each with the space behind it. -/
def leadingConnectors : List (List Char) :=
  ["and ".toList, "or ".toList]

/-- A raw fragment without the blanks around it and without a connector at its start. -/
def dropConnector (sql : List Char) : List Char :=
  let trimmed := Text.trim sql
  match leadingConnectors.findSome? (Text.afterKeyword? · trimmed) with
  | some rest => Text.trimStart rest
  | none => trimmed

/-- What ties an entry to the text before it. -/
def connector : Entry → Connector
  | predicate p => p.connector
  | raw _ => .and

/-- The template of an entry. -/
def template : Entry → Template
  | predicate p => p.template
  | raw sql => .ofText (String.ofList (dropConnector sql.toList))

end Entry

namespace Criteria

/-- The entries that yield text. -/
def written (criteria : Criteria) : List Entry :=
  criteria.entries.filter fun entry => !entry.template.isBlank

/-- An entry behind its connector. -/
def connected (entry : Entry) : Template :=
  .text (" " ++ entry.connector.keyword ++ " ") :: entry.template

/-- The template of criteria. -/
def template (criteria : Criteria) : Template :=
  match criteria.written with
  | [] => []
  | first :: rest => first.template ++ rest.flatMap connected

end Criteria

end SqlCompiler
