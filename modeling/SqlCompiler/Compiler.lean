import SqlCompiler.Event
import SqlCompiler.Statement.Template

/-! The compiler of one dialect turns queries into statements. Compiling binds values with
the query's own binder; when it fails, the query stays as it was.
-/

namespace SqlCompiler

/-- A dialect with what follows from it. -/
structure Compiler where
  dialect : Dialect
  quoteChar : Char
  plan : Plan
deriving DecidableEq, Repr

/-- A compiled statement, with the bindings that compiling it has made. -/
structure Compiled where
  kind : StatementKind
  dialect : Dialect
  sql : String
  bound : List Binding
deriving DecidableEq, Repr

/-- A binding in the log: the placeholder and the literal of its value. -/
def Binding.summary (binding : Binding) : String :=
  binding.placeholder ++ "=" ++ binding.value.literal

namespace Compiled

/-- The bindings of a statement in the log. -/
def bindingSummary (compiled : Compiled) : String :=
  String.intercalate ", " (compiled.bound.map Binding.summary)

/-- What the log says about a compiled statement. -/
def events (compiled : Compiled) : List Event :=
  [.statementCompiled compiled.kind compiled.dialect compiled.bound,
    { level := .trace
      message := "compiled sql"
      fields := [("sql", compiled.sql), ("bindings", compiled.bindingSummary)] }]

end Compiled

namespace Compiler

/-- The compiler of a dialect. -/
def forDialect (dialect : Dialect) : Compiler where
  dialect := dialect
  quoteChar := dialect.quoteChar
  plan := .forDialect dialect

instance : Inhabited Compiler := ⟨forDialect .generic⟩

/-- Turns to another dialect; nothing of the old one stays. -/
def setDialect (compiler : Compiler) (dialect : Dialect) : Compiler × Event :=
  (forDialect dialect, .dialectSwitch compiler.dialect dialect)

/-- The template of a statement: its keyword and the clauses of its plan, as far as the
query has something for them, with one space between them.
-/
def template (compiler : Compiler) (kind : StatementKind) (query : Query)
    : Except CompileError Template := do
  let clauses ← (compiler.plan.clauses kind).mapM
    (Clause.template compiler.dialect query)
  return .join " " (.ofText kind.keyword :: clauses.filterMap id)

/-- Compiles a query to a statement of the given kind. The query that comes back has the
binder after the statement, or before it if there is none.
-/
def compile (compiler : Compiler) (kind : StatementKind) (query : Query)
    : Except CompileError Compiled × Query :=
  match compiler.template kind query with
  | .error error => (.error error, query)
  | .ok template =>
      let (sql, binder) := template.fill compiler.quoteChar query.binder
      let bound := binder.bindings.drop query.binder.size
      (.ok { kind, dialect := compiler.dialect, sql, bound }, { query with binder })

/-- The text of criteria on their own. Without a binder no value can be bound. -/
def buildCriteria (compiler : Compiler) (criteria : Criteria)
    : Option Binder → Except CompileError (String × Option Binder)
  | some binder =>
      let (sql, last) := criteria.template.fill compiler.quoteChar binder
      .ok (sql, some last)
  | none => do
      let sql ← criteria.template.literalText compiler.quoteChar
      return (sql, none)

end Compiler

end SqlCompiler
