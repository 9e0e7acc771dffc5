import SqlCompiler.Dialect
import SqlCompiler.Statement.Kind

/-! Clause plans: for every dialect and kind of statement, the clauses that the statement is
made of, in order.
-/

namespace SqlCompiler

/-- A part of a statement. -/
inductive Clause
  | flags
  | columns
  | source
  | tableAlias
  | joins
  | criteria
  | groupBy
  | having
  | orderBy
  | limit
  | offset
  | limitOffset
  | returning
  | lock
  | table
  | insertColumns
  | insertValues
  | updateSet
deriving DecidableEq, Repr

/-- The name a clause has in listings of plans. -/
def Clause.name : Clause → String
  | flags => "Flags"
  | columns => "Columns"
  | source => "From"
  | tableAlias => "TableAlias"
  | joins => "Join"
  | criteria => "Where"
  | groupBy => "GroupBy"
  | having => "Having"
  | orderBy => "OrderBy"
  | limit => "Limit"
  | offset => "Offset"
  | limitOffset => "LimitOffset"
  | returning => "Returning"
  | lock => "Lock"
  | table => "Table"
  | insertColumns => "InsertColumns"
  | insertValues => "InsertValues"
  | updateSet => "UpdateSet"

/-- The clauses of each kind of statement. -/
structure Plan where
  select : List Clause
  insert : List Clause
  update : List Clause
  delete : List Clause
deriving DecidableEq, Repr

namespace Plan

/-- The clauses of a kind. -/
def clauses (plan : Plan) : StatementKind → List Clause
  | .select => plan.select
  | .insert => plan.insert
  | .update => plan.update
  | .delete => plan.delete

/-- The clauses that page through the rows of a `SELECT`. -/
def paging : Dialect → List Clause
  | .mysql => [.limitOffset]
  | .pgsql | .generic => [.limit, .offset]
  | .sqlite => []

/-- The clauses that only some dialects put behind an `UPDATE`. -/
def updateExtras : Dialect → List Clause
  | .mysql => [.limit]
  | .pgsql => [.returning]
  | .sqlite | .generic => []

/-- The plan of a dialect. Every list is the part that all dialects share, followed by what
the dialect adds; a `SELECT` ends with the row lock.
-/
def forDialect (dialect : Dialect) : Plan where
  select :=
    [.flags, .columns, .source, .tableAlias, .joins, .criteria, .groupBy, .having, .orderBy]
      ++ paging dialect ++ [.lock]
  insert :=
    [.table, .insertColumns, .insertValues]
      ++ if dialect.supportsReturning then [.returning] else []
  update := [.table, .updateSet, .criteria] ++ updateExtras dialect
  delete := [.table, .criteria]

end Plan

end SqlCompiler
