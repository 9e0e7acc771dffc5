import SqlCompiler.Binder
import SqlCompiler.Criteria.Condition
import SqlCompiler.OrderedMap
import SqlCompiler.Query.Count
import SqlCompiler.Query.Join

/-! Queries collect what a statement of any kind needs: table, columns, values, criteria,
order, limits and flags. Each owns the binder that numbers its placeholders.
-/

namespace SqlCompiler

/-- What is selected: a column by its name, or a raw expression. -/
inductive ColumnExpr
  | name (column : String)
  | raw (sql : String)
deriving DecidableEq, Repr

/-- An entry of the select list. -/
structure SelectColumn where
  expr : ColumnExpr
  columnAlias : Option String
deriving DecidableEq, Repr

/-- A direction of sorting. -/
inductive Direction
  | asc
  | desc
deriving DecidableEq, Repr

instance : Inhabited Direction := ⟨.asc⟩

namespace Direction

/-- The direction of a name: descending for `desc` in any case, ascending for the rest. -/
def ofName (name : String) : Direction :=
  if Text.lower (Text.trim name.toList) = "desc".toList then desc else asc

/-- The keyword of a direction. -/
def keyword : Direction → String
  | asc => "ASC"
  | desc => "DESC"

end Direction

/-- All that a statement is compiled from. -/
structure Query where
  table : String := ""
  tableAlias : Option String := none
  idColumn : Option String := none
  columns : List SelectColumn := []
  /-- The column values of an `INSERT` or `UPDATE`, each column once. -/
  values : List (String × Value) := []
  joins : List Join := []
  criteria : Criteria := {}
  group : List String := []
  having : Criteria := {}
  order : List (String × Direction) := []
  limit : Option UInt64 := none
  offset : UInt64 := 0
  flags : List String := []
  forUpdate : Bool := false
  returning : Option String := none
  binder : Binder := {}
deriving DecidableEq, Repr, Inhabited

namespace Query

/-- An empty query that numbers its placeholders with the given binder. -/
def withBinder (binder : Binder) : Query :=
  { binder }

/-- Names the table. -/
def setTable (query : Query) (table : String) : Query :=
  { query with table }

/-- Names the table and its identifying column. -/
def setTableWithId (query : Query) (table idColumn : String) : Query :=
  { query with table, idColumn := some idColumn }

/-- Names the alias of the table. -/
def setAlias (query : Query) (tableAlias : String) : Query :=
  { query with tableAlias := some tableAlias }

/-- Selects one more thing. -/
def addColumn (query : Query) (column : SelectColumn) : Query :=
  { query with columns := query.columns ++ [column] }

/-- Selects a column. -/
def column (query : Query) (column : String) : Query :=
  query.addColumn { expr := .name column, columnAlias := none }

/-- Selects a column under an alias. -/
def columnAs (query : Query) (column columnAlias : String) : Query :=
  query.addColumn { expr := .name column, columnAlias := some columnAlias }

/-- Selects a raw expression. -/
def rawColumn (query : Query) (sql : String) (columnAlias : Option String) : Query :=
  query.addColumn { expr := .raw sql, columnAlias }

/-- Sets the value of a column. -/
def setValue (query : Query) (column : String) (value : Value) : Query :=
  { query with values := OrderedMap.set column value query.values }

/-- Replaces all column values; later ones win over earlier ones of the same column. -/
def setValues (query : Query) (values : List (String × Value)) : Query :=
  { query with values := OrderedMap.ofList values }

/-- Adds a join. -/
def addJoin (query : Query) (join : Join) : Query :=
  { query with joins := query.joins ++ [join] }

/-- Adds an inner join. -/
def innerJoin (query : Query) (table condition : String) : Query :=
  query.addJoin (.ofText .inner table (some condition))

/-- Adds a left join. -/
def leftJoin (query : Query) (table condition : String) : Query :=
  query.addJoin (.ofText .left table (some condition))

/-- Adds a right join. -/
def rightJoin (query : Query) (table condition : String) : Query :=
  query.addJoin (.ofText .right table (some condition))

/-- Adds a cross join, which has no condition. -/
def crossJoin (query : Query) (table : String) : Query :=
  query.addJoin (.ofText .cross table none)

/-- Adds a predicate to the criteria. -/
def addCriterion (query : Query) (predicate : Predicate) : Query :=
  { query with criteria := query.criteria.pushPredicate predicate }

/-- Starts a condition of the criteria that is tied with `AND`. -/
def whereColumn (query : Query) (column : String) : Condition Query :=
  { column, connector := .and, add := query.addCriterion }

/-- Starts a condition of the criteria that is tied with `OR`. -/
def orWhereColumn (query : Query) (column : String) : Condition Query :=
  { column, connector := .or, add := query.addCriterion }

/-- Adds a raw fragment to the criteria. -/
def whereRaw (query : Query) (sql : String) : Query :=
  { query with criteria := query.criteria.pushRaw sql }

/-- Adds the condition that a keyword and an operand describe to the criteria. -/
def whereCondition (query : Query) (column keyword : String) (operand : Operand)
    : Except CompileError Query := do
  let criteria ← query.criteria.pushCondition column keyword operand
  return { query with criteria }

/-- Puts other criteria in the place of the present ones. -/
def filter (query : Query) (edit : Criteria → Criteria) : Query :=
  { query with criteria := edit query.criteria }

/-- Groups by one more column. -/
def groupBy (query : Query) (column : String) : Query :=
  { query with group := query.group ++ [column] }

/-- Adds a raw fragment to the criteria for groups. -/
def havingRaw (query : Query) (sql : String) : Query :=
  { query with having := query.having.pushRaw sql }

/-- Puts other criteria for groups in the place of the present ones. -/
def filterHaving (query : Query) (edit : Criteria → Criteria) : Query :=
  { query with having := edit query.having }

/-- Adds a predicate to the criteria for groups. -/
def addHavingCriterion (query : Query) (predicate : Predicate) : Query :=
  { query with having := query.having.pushPredicate predicate }

/-- Starts a condition of the criteria for groups. -/
def havingColumn (query : Query) (column : String) : Condition Query :=
  { column, connector := .and, add := query.addHavingCriterion }

/-- Sorts by one more column. -/
def orderBy (query : Query) (column : String) (direction : Direction := .asc) : Query :=
  { query with order := query.order ++ [(column, direction)] }

/-- Limits the number of rows; what is no count takes the limit away. -/
def setLimit {α : Type} [ToCount α] (query : Query) (limit : α) : Query :=
  { query with limit := toCount? limit }

/-- Skips a number of rows; what is no count skips none. -/
def setOffset {α : Type} [ToCount α] (query : Query) (offset : α) : Query :=
  { query with offset := (toCount? offset).getD 0 }

/-- Adds a word behind `SELECT`. -/
def addFlag (query : Query) (flag : String) : Query :=
  { query with flags := query.flags ++ [flag] }

/-- Selects distinct rows. -/
def distinct (query : Query) : Query :=
  query.addFlag "DISTINCT"

/-- Locks the selected rows. -/
def lockRows (query : Query) : Query :=
  { query with forUpdate := true }

/-- Returns something from the written rows. -/
def setReturning (query : Query) (returning : String) : Query :=
  { query with returning := some returning }

/-- Forgets everything but the table, its identifying column and the placeholder prefix. -/
def reset (query : Query) : Query :=
  { table := query.table, idColumn := query.idColumn, binder := query.binder.reset }

/-- The bindings made for this query. -/
def bindings (query : Query) : List Binding :=
  query.binder.bindings

end Query

end SqlCompiler
