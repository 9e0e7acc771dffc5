import SqlCompiler.Query.Basic

/-! The setters of queries as data, so that one can speak of any sequence of them. None of them
touches the binder.
-/

namespace SqlCompiler.Query

/-- A call of a setter. Conditions in the making are given with the relation that completes
them, and counts as what they are read as.
-/
inductive Edit
  | table (table : String)
  | tableWithId (table idColumn : String)
  | tableAlias (tableAlias : String)
  | column (column : String)
  | columnAs (column columnAlias : String)
  | rawColumn (sql : String) (columnAlias : Option String)
  | value (column : String) (value : Value)
  | values (values : List (String × Value))
  | innerJoin (table condition : String)
  | leftJoin (table condition : String)
  | rightJoin (table condition : String)
  | crossJoin (table : String)
  | whereColumn (column : String) (relation : Relation)
  | orWhereColumn (column : String) (relation : Relation)
  | whereRaw (sql : String)
  | whereCondition (column keyword : String) (operand : Operand)
  | filter (change : Criteria → Criteria)
  | groupBy (column : String)
  | havingRaw (sql : String)
  | filterHaving (change : Criteria → Criteria)
  | havingColumn (column : String) (relation : Relation)
  | orderBy (column : String) (direction : Direction)
  | limit (count : Option UInt64)
  | offset (count : Option UInt64)
  | flag (flag : String)
  | distinct
  | lockRows
  | returning (returning : String)

/-- Makes the call. A condition that is refused leaves the query as it was. -/
def Edit.apply (query : Query) : Edit → Query
  | .table name => query.setTable name
  | .tableWithId name idColumn => query.setTableWithId name idColumn
  | .tableAlias name => query.setAlias name
  | .column name => query.column name
  | .columnAs name columnAlias => query.columnAs name columnAlias
  | .rawColumn sql columnAlias => query.rawColumn sql columnAlias
  | .value name assigned => query.setValue name assigned
  | .values assigned => query.setValues assigned
  | .innerJoin name condition => query.innerJoin name condition
  | .leftJoin name condition => query.leftJoin name condition
  | .rightJoin name condition => query.rightJoin name condition
  | .crossJoin name => query.crossJoin name
  | .whereColumn name relation => (query.whereColumn name).relate relation
  | .orWhereColumn name relation => (query.orWhereColumn name).relate relation
  | .whereRaw sql => query.whereRaw sql
  | .whereCondition name keyword operand =>
      match query.whereCondition name keyword operand with
      | .ok next => next
      | .error _ => query
  | .filter change => query.filter change
  | .groupBy name => query.groupBy name
  | .havingRaw sql => query.havingRaw sql
  | .filterHaving change => query.filterHaving change
  | .havingColumn name relation => (query.havingColumn name).relate relation
  | .orderBy name direction => query.orderBy name direction
  | .limit count => query.setLimit count
  | .offset count => query.setOffset count
  | .flag word => query.addFlag word
  | .distinct => query.distinct
  | .lockRows => query.lockRows
  | .returning sql => query.setReturning sql

/-- A condition by keyword, if it is accepted, changes the criteria and nothing else. -/
theorem whereCondition_ok {query next : Query} {column keyword : String} {operand : Operand}
    (ok : query.whereCondition column keyword operand = .ok next)
    : ∃ criteria, next = { query with criteria } := by
  cases pushed : query.criteria.pushCondition column keyword operand with
  | error error => simp [whereCondition, pushed, bind, Except.bind] at ok
  | ok criteria =>
      simp only [whereCondition, pushed, bind, Except.bind, pure, Except.pure,
        Except.ok.injEq] at ok
      exact ⟨criteria, ok.symm⟩

/-- No setter touches the binder, by cases on the setter. -/
@[simp]
theorem Edit.apply_binder (query : Query) (edit : Edit)
    : (edit.apply query).binder = query.binder := by
  cases edit with
  | whereCondition column keyword operand =>
      simp only [apply]
      cases set : query.whereCondition column keyword operand with
      | error error => rfl
      | ok next =>
          obtain ⟨criteria, rfl⟩ := whereCondition_ok set
          rfl
  | _ => rfl

end SqlCompiler.Query
