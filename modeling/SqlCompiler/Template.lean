import SqlCompiler.Binder
import SqlCompiler.Identifier

/-! Templates: SQL text in which the identifiers are still to be quoted, with slots for the
values that are to be bound. A query decides its template alone; a dialect only supplies the
quotation, and a binder the placeholders that fill the slots, from left to right.
-/

namespace SqlCompiler

/-- A piece of a template: literal text, an identifier, or a slot for a value of a column. -/
inductive Piece
  | text (sql : String)
  | name (identifier : String)
  | slot (column : String) (value : SqlValue)
deriving DecidableEq, Repr

/-- SQL text with identifiers and slots. -/
abbrev Template := List Piece

namespace Template

/-- A template that is a text. -/
def ofText (sql : String) : Template := [.text sql]

/-- A template that is an identifier. -/
def ofName (identifier : String) : Template := [.name identifier]

/-- The template of a value: a raw fragment is text, a value to bind is a slot. -/
def ofValue (column : String) : Value → Template
  | .raw sql => [.text sql]
  | .bind value => [.slot column value]

/-- Templates one after the other, with a separating text between them. -/
def join (separator : String) (templates : List Template) : Template :=
  List.intercalate [.text separator] templates

/-- Filling yields the empty text. An identifier never does, since even an empty one gets its
delimiters, nor does a slot, since a placeholder has a colon.
-/
def isBlank (template : Template) : Bool :=
  template.all fun
    | .text sql => sql.isEmpty
    | .name _ => false
    | .slot _ _ => false

/-- The template, unless it is blank. -/
def nonBlank? (template : Template) : Option Template :=
  if template.isBlank then none else some template

/-- The values of the slots, from left to right. -/
def slotValues (template : Template) : List SqlValue :=
  template.filterMap fun
    | .text _ => none
    | .name _ => none
    | .slot _ value => some value

/-- Quotes the identifiers, binds the values of the slots, from left to right, and writes
their placeholders.
-/
def fill (quoteChar : Char) : Template → Binder → String × Binder
  | [], binder => ("", binder)
  | .text sql :: rest, binder =>
      let (tail, last) := fill quoteChar rest binder
      (sql ++ tail, last)
  | .name identifier :: rest, binder =>
      let (tail, last) := fill quoteChar rest binder
      (Identifier.quote quoteChar identifier ++ tail, last)
  | .slot _ value :: rest, binder =>
      let (token, next) := binder.prepare value
      let (tail, last) := fill quoteChar rest next
      (token ++ tail, last)

/-- The text of a template that has no slots; the first slot is one too many. -/
def literalText (quoteChar : Char) : Template → Except CompileError String
  | [] => .ok ""
  | .text sql :: rest => (literalText quoteChar rest).map (sql ++ ·)
  | .name identifier :: rest =>
      (literalText quoteChar rest).map (Identifier.quote quoteChar identifier ++ ·)
  | .slot column _ :: _ => .error (.missingBinder column)

end Template

end SqlCompiler
