import SqlCompiler.Proofs.Statement.Criteria
import SqlCompiler.Proofs.Statement.Refusal
import SqlCompiler.Proofs.Text.Intercalate

/-! A `SELECT` starts with what it selects: flags, columns, table, alias and joins. These clauses
are never refused and bind nothing, so what is behind them is written as if they were not there;
and a join more adds its own text, whatever else the query has.
-/

namespace SqlCompiler

-----------------------------------------------------------------------------------------
-- Columns and joins
-----------------------------------------------------------------------------------------

/-- How an entry of the select list is written. -/
def SelectColumn.text (quoteChar : Char) (column : SelectColumn) : String :=
  (match column.expr with
    | .name name => Identifier.quote quoteChar name
    | .raw sql => sql)
    ++ (match column.columnAlias with
      | some name => " AS " ++ Identifier.quote quoteChar name
      | none => "")

/-- How a join of the given kind shows its table, alias and condition, once they are written. -/
def JoinKind.text (kind : JoinKind) (table : String) (tableAlias condition : Option String)
    : String :=
  kind.keyword ++ " " ++ table
    ++ (match tableAlias with
      | some name => " " ++ name
      | none => "")
    ++ (match condition with
      | some sql => " ON " ++ sql
      | none => "")

/-- How a join is written. -/
def Join.text (quoteChar : Char) (join : Join) : String :=
  join.kind.text (Identifier.quote quoteChar join.table)
    (join.tableAlias.map (Identifier.quote quoteChar)) join.condition

theorem SelectColumn.fill_template (quoteChar : Char) (column : SelectColumn) (binder : Binder)
    : column.template.fill quoteChar binder = (column.text quoteChar, binder) := by
  obtain ⟨expr, columnAlias⟩ := column
  cases expr <;> cases columnAlias <;>
    simp [template, text, Template.fill]

/-- A join always shows its keyword. -/
theorem Join.isBlank_template (join : Join) : join.template.isBlank = false := by
  obtain ⟨kind, table, tableAlias, condition⟩ := join
  cases kind <;> simp [template, Template.isBlank, JoinKind.keyword]

theorem Join.fill_template (quoteChar : Char) (join : Join) (binder : Binder)
    : join.template.fill quoteChar binder = (join.text quoteChar, binder) := by
  obtain ⟨kind, table, tableAlias, condition⟩ := join
  cases tableAlias <;> cases condition <;>
    simp [template, text, JoinKind.text, Template.fill, String.append_assoc]

namespace Query

/-- The flags of a query, if they have a text. -/
def flagTexts (query : Query) : List String :=
  if String.intercalate " " query.flags = "" then [] else [String.intercalate " " query.flags]

/-- How the select list is written. -/
def selectText (quoteChar : Char) (query : Query) : String :=
  if query.columns.isEmpty then "*"
  else String.intercalate ", " (query.columns.map (SelectColumn.text quoteChar))

/-- The joins as one text, if there are any. -/
def joinTexts (quoteChar : Char) (query : Query) : List String :=
  if query.joins = [] then []
  else [String.intercalate " " (query.joins.map (Join.text quoteChar))]

/-- It is all one whether the joins are set apart from what is before them together or one by one.
-/
theorem join_joinTexts (quoteChar : Char) (query : Query)
    : String.join ((query.joinTexts quoteChar).map (" " ++ ·))
      = String.join ((query.joins.map (Join.text quoteChar)).map (" " ++ ·)) := by
  rw [joinTexts]
  cases query.joins with
  | nil => rfl
  | cons first rest =>
      simp only [if_neg (List.cons_ne_nil first rest), List.map_cons, List.map_nil,
        Text.intercalate_cons, String.join_cons, String.join_nil, String.append_empty,
        String.append_assoc]

/-- What a `SELECT` starts with, behind its keyword. -/
def opening (quoteChar : Char) (query : Query) : List String :=
  query.flagTexts
    ++ query.selectText quoteChar
    :: ("FROM " ++ Identifier.quote quoteChar query.table)
    :: (query.tableAlias.map (Identifier.quote quoteChar)).toList
    ++ query.joins.map (Join.text quoteChar)

theorem opening_addJoin (quoteChar : Char) (query : Query) (join : Join)
    : (query.addJoin join).opening quoteChar
      = query.opening quoteChar ++ [join.text quoteChar] := by
  rw [opening, addJoin, List.map_append, ← List.append_assoc]
  rfl

end Query

namespace Compiler

variable {compiler : Compiler} {query : Query} {binder middle : Binder} {front : List String}

-----------------------------------------------------------------------------------------
-- Clauses behind others
-----------------------------------------------------------------------------------------

/-- Clauses behind others that can be written are refused on their own, by induction on those before
them.
-/
theorem writeClauses_append_of_ok {left : List Clause}
    (written : compiler.writeClauses query left binder = (.ok front, middle))
    (right : List Clause)
    : compiler.writeClauses query (left ++ right) binder
      = ((compiler.writeClauses query right middle).1.map (front ++ ·),
          (compiler.writeClauses query right middle).2) := by
  induction left generalizing binder front with
  | nil =>
      obtain ⟨isFront, rfl⟩ := Prod.mk.inj written
      obtain rfl := Except.ok.inj isFront
      rw [List.nil_append]
      rcases compiler.writeClauses query right binder with ⟨error | texts, last⟩ <;> rfl
  | cons clause left ih =>
      obtain ⟨part, others, yields, tail, rfl⟩ := writeClauses_cons_eq_ok_iff.mp written
      rw [List.cons_append, writeClauses, yields]
      cases part with
      | none => exact ih tail
      | some template =>
          rw [Template.partValues, Option.elim_some] at tail
          simp only [Template.fill_eq]
          rw [ih tail]
          rcases compiler.writeClauses query right middle with ⟨error | texts, last⟩ <;> rfl

/-- Clauses are written alike of queries that they yield the same for, by induction on them. -/
theorem writeClauses_congr {left right : Query} {clauses : List Clause}
    (same
      : ∀ clause ∈ clauses,
          clause.template compiler.dialect left = clause.template compiler.dialect right)
    (binder : Binder)
    : compiler.writeClauses left clauses binder = compiler.writeClauses right clauses binder := by
  induction clauses generalizing binder with
  | nil => rfl
  | cons clause clauses ih =>
      obtain ⟨first, others⟩ := List.forall_mem_cons.mp same
      simp only [writeClauses, first, ih others]

-----------------------------------------------------------------------------------------
-- The opening
-----------------------------------------------------------------------------------------

theorem writeClauses_flags (compiler : Compiler) (query : Query) (binder : Binder)
    : compiler.writeClauses query [.flags] binder = (.ok query.flagTexts, binder) := by
  by_cases empty : String.intercalate " " query.flags = ""
  · simp [writeClauses, Clause.template, Query.flagTexts, empty, Template.nonBlank?,
      Template.ofText, Template.isBlank]
  · simp [writeClauses, Clause.template, Query.flagTexts, empty, Template.nonBlank?,
      Template.ofText, Template.isBlank, Template.fill, Except.map]

theorem writeClauses_columns (compiler : Compiler) (query : Query) (binder : Binder)
    : compiler.writeClauses query [.columns] binder
      = (.ok [query.selectText compiler.quoteChar], binder) := by
  have filled
      : query.selectList.fill compiler.quoteChar binder
        = (query.selectText compiler.quoteChar, binder) := by
    rw [Query.selectList, Query.selectText]
    split
    · simp [Template.ofText, Template.fill]
    · rw [Template.fill_join,
        Template.fillAll_map (SelectColumn.fill_template compiler.quoteChar)]
  simp [writeClauses, Clause.template, filled, Except.map]

theorem writeClauses_source (compiler : Compiler) (query : Query) (binder : Binder)
    : compiler.writeClauses query [.source] binder
      = (.ok ["FROM " ++ Identifier.quote compiler.quoteChar query.table], binder) := by
  simp [writeClauses, Clause.template, Template.fill, Except.map]

theorem writeClauses_tableAlias (compiler : Compiler) (query : Query) (binder : Binder)
    : compiler.writeClauses query [.tableAlias] binder
      = (.ok (query.tableAlias.map (Identifier.quote compiler.quoteChar)).toList, binder) := by
  cases given : query.tableAlias <;>
    simp [writeClauses, Clause.template, given, Template.ofName, Template.fill, Except.map]

/-- Joins are one text with spaces in between. -/
theorem writeClauses_joins (compiler : Compiler) (query : Query) (binder : Binder)
    : compiler.writeClauses query [.joins] binder
      = (.ok (query.joinTexts compiler.quoteChar), binder) := by
  have filled
      : (Template.join " " (query.joins.map Join.template)).fill compiler.quoteChar binder
        = (String.intercalate " " (query.joins.map (Join.text compiler.quoteChar)), binder) := by
    rw [Template.fill_join, Template.fillAll_map (Join.fill_template compiler.quoteChar)]
  have blank
      : (Template.join " " (query.joins.map Join.template)).isBlank = true
        ↔ query.joins = [] := by
    rcases query.joins with - | ⟨first, - | ⟨next, rest⟩⟩
    · simp [Template.join, Template.isBlank]
    · simp [Template.join, Join.isBlank_template]
    · simp [Template.join, Template.isBlank_append, Join.isBlank_template]
  simp only [writeClauses, Clause.template, Template.nonBlank?, blank, Query.joinTexts]
  by_cases none : query.joins = []
  · simp only [if_pos none]
  · simp only [if_neg none, filled]
    rfl

/-- The opening of a `SELECT` can always be written, and the binder stays as it is. -/
theorem writeClauses_opening (compiler : Compiler) (query : Query) (binder : Binder)
    : compiler.writeClauses query [.flags, .columns, .source, .tableAlias, .joins] binder
      = (.ok
            (query.flagTexts
              ++ (query.selectText compiler.quoteChar
                :: ("FROM " ++ Identifier.quote compiler.quoteChar query.table)
                :: ((query.tableAlias.map (Identifier.quote compiler.quoteChar)).toList
                  ++ query.joinTexts compiler.quoteChar))),
          binder) := by
  have oneByOne
      : [Clause.flags, .columns, .source, .tableAlias, .joins]
        = [.flags] ++ ([.columns] ++ ([.source] ++ ([.tableAlias] ++ [.joins]))) :=
    rfl
  rw [oneByOne, writeClauses_append_of_ok (writeClauses_flags ..),
    writeClauses_append_of_ok (writeClauses_columns ..),
    writeClauses_append_of_ok (writeClauses_source ..),
    writeClauses_append_of_ok (writeClauses_tableAlias ..), writeClauses_joins]
  rfl

/-- The clauses of a `SELECT` behind its joins. -/
def behindJoins (dialect : Dialect) : List Clause :=
  [.criteria, .groupBy, .having, .orderBy] ++ Plan.paging dialect ++ [.lock]

/-- A `SELECT` is its opening and the clauses behind it, which decide on their own whether it can be
compiled.
-/
theorem compile_select (dialect : Dialect) (query : Query)
    : (forDialect dialect).compile .select query
      = match (forDialect dialect).writeClauses query (behindJoins dialect) query.binder with
        | (.error error, _) => (.error error, query)
        | (.ok behind, binder) =>
            (.ok
              { kind := .select
                dialect
                sql :=
                  String.intercalate " "
                    ("SELECT" :: (query.opening dialect.quoteChar ++ behind))
                bound := binder.bindings.drop query.binder.size },
              { query with binder }) := by
  have plan
      : (forDialect dialect).plan.clauses .select
        = [.flags, .columns, .source, .tableAlias, .joins] ++ behindJoins dialect :=
    rfl
  rw [compile_eq_writeClauses, plan, writeClauses_append_of_ok (writeClauses_opening ..)]
  rcases (forDialect dialect).writeClauses query (behindJoins dialect) query.binder with
    ⟨error | behind, binder⟩
  · rfl
  · simp only [Except.map, Text.intercalate_cons, Query.opening, List.map_append, List.map_cons,
      String.join_append, String.join_cons, Query.join_joinTexts, String.append_assoc]
    rfl

/-- A `SELECT` can be compiled unless it asks SQLite for a row lock. -/
theorem exists_compile_select {dialect : Dialect} {query : Query}
    (unlocked : dialect = .sqlite → query.forUpdate = false)
    : ∃ behind last,
        (forDialect dialect).writeClauses query (behindJoins dialect) query.binder
          = (.ok behind, last) := by
  have compiled := compile_select dialect query
  rcases written
    : (forDialect dialect).writeClauses query (behindJoins dialect) query.binder with
    ⟨error | behind, last⟩
  · rw [written] at compiled
    have refused := compile_eq_error_iff.mp (congrArg Prod.fst compiled)
    rcases Query.refusal?_eq_some_iff.mp refused with ⟨_, sqlite, locked, _⟩ | ⟨other, _⟩
    · rw [unlocked sqlite] at locked
      cases locked
    · rcases other with insert | update
      · cases insert
      · cases update
  · exact ⟨behind, last, rfl⟩

/-- A join more adds its own text behind the joins before it, and nothing else changes. -/
theorem compile_addJoin {dialect : Dialect} {query : Query}
    (unlocked : dialect = .sqlite → query.forUpdate = false)
    : ∃ compiled behind,
        ((forDialect dialect).compile .select query).1 = .ok compiled
        ∧ compiled.sql
          = String.intercalate " " ("SELECT" :: (query.opening dialect.quoteChar ++ behind))
        ∧ ∀ join,
            ((forDialect dialect).compile .select (query.addJoin join)).1
              = .ok
                  { compiled with
                    sql :=
                      String.intercalate " "
                        ("SELECT"
                          :: (query.opening dialect.quoteChar
                            ++ join.text dialect.quoteChar :: behind)) } := by
  obtain ⟨behind, last, written⟩ := exists_compile_select unlocked
  let compiled : Compiled :=
    { kind := .select
      dialect
      sql := String.intercalate " " ("SELECT" :: (query.opening dialect.quoteChar ++ behind))
      bound := last.bindings.drop query.binder.size }
  refine ⟨compiled, behind, ?_, rfl, fun join => ?_⟩
  · rw [compile_select, written]
  · have same
        : (forDialect dialect).writeClauses (query.addJoin join) (behindJoins dialect) query.binder
          = (.ok behind, last) := by
      rw [← written]
      refine writeClauses_congr (fun clause listed => ?_) query.binder
      cases clause with
      | joins => cases dialect <;> simp [behindJoins, Plan.paging] at listed
      | _ => rfl
    have binder : (query.addJoin join).binder = query.binder := rfl
    rw [compile_select, binder, same, Query.opening_addJoin]
    simp only [List.append_assoc, List.singleton_append, compiled]

end Compiler

end SqlCompiler
