import SqlCompiler.Text.Blank
import SqlCompiler.Text.Case

/-! Joins. The joined table may be given with an alias, as in `orders o` or `orders AS o`. -/

namespace SqlCompiler

/-- How the rows of two tables are combined. -/
inductive JoinKind
  | inner
  | left
  | right
  | cross
deriving DecidableEq, Repr

/-- The keyword of a join. -/
def JoinKind.keyword : JoinKind → String
  | inner => "INNER JOIN"
  | left => "LEFT JOIN"
  | right => "RIGHT JOIN"
  | cross => "CROSS JOIN"

/-- A joined table, with the condition it is joined on. -/
structure Join where
  kind : JoinKind
  table : String
  tableAlias : Option String
  condition : Option String
deriving DecidableEq, Repr

namespace Join

/-- The text, unless it is empty. -/
def nonEmpty? (text : List Char) : Option String :=
  if text.isEmpty then none else some (String.ofList text)

/-- The alias in the text behind the table: all of it, without a leading `as`. -/
def alias? (text : List Char) : Option String :=
  let trimmed := Text.trimStart text
  match Text.afterKeyword? "as ".toList trimmed with
  | some rest => nonEmpty? (Text.trimStart rest)
  | none => nonEmpty? trimmed

/-- A table text as the table and its alias, which are parted by the first blank. -/
def tableAndAlias (text : String) : String × Option String :=
  let trimmed := Text.trim text.toList
  match Text.cutAtBlank? trimmed with
  | some (table, rest) => (String.ofList table, alias? rest)
  | none => (String.ofList trimmed, none)

/-- The join of a table text on a condition. A blank condition is none. -/
def ofText (kind : JoinKind) (text : String) (condition : Option String) : Join :=
  let (table, tableAlias) := tableAndAlias text
  { kind, table, tableAlias
    condition := condition.bind fun sql => nonEmpty? (Text.trim sql.toList) }

end Join

end SqlCompiler
