import SqlCompiler.Criteria.Template
import SqlCompiler.Query.Basic
import SqlCompiler.Statement.Plan

/-! The templates of clauses and of whole statements. A clause for which the query has
nothing yields none, and is left out of the statement.
-/

namespace SqlCompiler

/-- Puts a keyword before a clause that is not blank. -/
def Template.headed (keyword : String) (template : Template) : Option Template :=
  template.nonBlank?.map (.text (keyword ++ " ") :: ·)

/-- An entry of the select list, with its alias. -/
def SelectColumn.template (column : SelectColumn) : Template :=
  let expr : Piece :=
    match column.expr with
    | .name name => .name name
    | .raw sql => .text sql
  match column.columnAlias with
  | some name => [expr, .text " AS ", .name name]
  | none => [expr]

/-- A join, with the alias and the condition if there are any. -/
def Join.template (join : Join) : Template :=
  [.text (join.kind.keyword ++ " "), .name join.table]
    ++ (match join.tableAlias with
      | some name => [.text " ", .name name]
      | none => [])
    ++ (match join.condition with
      | some sql => [.text (" ON " ++ sql)]
      | none => [])

/-- Some identifiers, separated by commas. -/
def Template.ofNames (names : List String) : Template :=
  .join ", " (names.map .ofName)

namespace Query

/-- The limit; a limit of no rows is none. -/
def rowLimit? (query : Query) : Option UInt64 :=
  query.limit.filter (0 < ·)

/-- The offset, if rows are to be skipped. -/
def rowOffset? (query : Query) : Option UInt64 :=
  if 0 < query.offset then some query.offset else none

/-- The select list; an empty one selects everything. -/
def selectList (query : Query) : Template :=
  if query.columns.isEmpty then .ofText "*"
  else .join ", " (query.columns.map SelectColumn.template)

/-- The sort columns with their directions. -/
def sortList (query : Query) : Template :=
  .join ", "
    (query.order.map fun (column, direction) =>
      [.name column, .text (" " ++ direction.keyword)])

/-- The values of an `INSERT`, separated by commas. -/
def valueList (query : Query) : Template :=
  .join ", " (query.values.map fun (column, value) => Template.ofValue column value)

/-- The assignments of an `UPDATE`, separated by commas. -/
def assignmentList (query : Query) : Template :=
  .join ", "
    (query.values.map fun (column, value) =>
      .name column :: .text " = " :: Template.ofValue column value)

/-- Limit and offset in one clause, the offset first. -/
def pagingText (query : Query) : Option String :=
  query.rowLimit?.map fun limit =>
    match query.rowOffset? with
    | some offset => "LIMIT " ++ toString offset ++ ", " ++ toString limit
    | none => "LIMIT " ++ toString limit

end Query

/-- A statement that writes values needs at least one. -/
def requireValues (query : Query) (kind : StatementKind) : Except CompileError Unit :=
  if query.values.isEmpty then .error (.missingValues kind) else .ok ()

/-- Surrounds a clause that is not blank. -/
def Template.enclosed (opening : String) (template : Template) : Option Template :=
  template.nonBlank?.map fun inner => .text opening :: (inner ++ [.text " )"])

/-- The template of a clause. -/
def Clause.template (dialect : Dialect) (query : Query)
    : Clause → Except CompileError (Option Template)
  | .flags => .ok (Template.ofText (String.intercalate " " query.flags)).nonBlank?
  | .columns => .ok (some query.selectList)
  | .source => .ok (some [.text "FROM ", .name query.table])
  | .tableAlias => .ok (query.tableAlias.map .ofName)
  | .joins => .ok (Template.join " " (query.joins.map Join.template)).nonBlank?
  | .criteria => .ok (query.criteria.template.headed "WHERE")
  | .groupBy => .ok ((Template.ofNames query.group).headed "GROUP BY")
  | .having => .ok (query.having.template.headed "HAVING")
  | .orderBy => .ok (query.sortList.headed "ORDER BY")
  | .limit => .ok (query.rowLimit?.map fun n => .ofText ("LIMIT " ++ toString n))
  | .offset => .ok (query.rowOffset?.map fun n => .ofText ("OFFSET " ++ toString n))
  | .limitOffset => .ok (query.pagingText.map .ofText)
  | .returning =>
      .ok (query.returning.bind fun sql => (Template.ofText sql).headed "RETURNING")
  | .lock =>
      if !query.forUpdate then .ok none
      else if dialect.supportsRowLocks then .ok (some (.ofText "FOR UPDATE"))
      else .error (.rowLockUnavailable dialect)
  | .table => .ok (some (.ofName query.table))
  | .insertColumns => do
      requireValues query .insert
      return (Template.ofNames (OrderedMap.keys query.values)).enclosed "( "
  | .insertValues => .ok (query.valueList.enclosed "VALUES ( ")
  | .updateSet => do
      requireValues query .update
      return query.assignmentList.headed "SET"

end SqlCompiler
