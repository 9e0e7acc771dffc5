import SqlCompiler.Proofs.Criteria.Presence
import SqlCompiler.Proofs.Statement.Bound
import SqlCompiler.Proofs.Statement.Writing

/-! Criteria stand in a statement as they are built on their own: behind their keyword, and with
the binder that the clauses before them leave. They are left out only if they have no text.
-/

namespace SqlCompiler

theorem Binder.prepareAll_append (binder : Binder) (left right : List SqlValue)
    : (binder.prepareAll (left ++ right)).2
      = ((binder.prepareAll left).2.prepareAll right).2 := by
  simp only [prepareAll_eq, numbered_append, List.length_append, List.append_assoc,
    Nat.add_assoc]

/-- A text behind a keyword; without a text there is no keyword either. -/
def headedText (keyword sql : String) : List String :=
  if sql = "" then [] else [keyword ++ " " ++ sql]

/-- A part behind a keyword is left out exactly if it has no text. -/
theorem Template.toList_render_headed (quoteChar : Char) (placeholderPrefix : String)
    (number : Nat) (keyword : String) (template : Template)
    : ((template.headed keyword).map (render quoteChar placeholderPrefix number)).toList
      = headedText keyword (template.render quoteChar placeholderPrefix number) := by
  have shows
      := @render_eq_empty_iff quoteChar placeholderPrefix number template
  rw [headedText, headed, nonBlank?]
  cases blank : template.isBlank with
  | true => simp [shows.mpr blank]
  | false => simp [shows, blank, render]

theorem intercalate_headedText (verb name keyword sql : String)
    : String.intercalate " " (verb :: name :: headedText keyword sql)
      = verb ++ " " ++ name ++ (if sql = "" then "" else " " ++ keyword ++ " " ++ sql) := by
  rw [headedText]
  split
  · simp
  · simp [String.append_assoc]

namespace Compiler

variable {compiler : Compiler} {query : Query} {binder last : Binder} {texts : List String}

-----------------------------------------------------------------------------------------
-- Clauses written in parts
-----------------------------------------------------------------------------------------

/-- Clauses can be written if the first can, and the others with the binder it leaves. -/
theorem writeClauses_cons_eq_ok_iff {clause : Clause} {rest : List Clause}
    : compiler.writeClauses query (clause :: rest) binder = (.ok texts, last)
      ↔ ∃ part others,
          clause.template compiler.dialect query = .ok part
          ∧ compiler.writeClauses query rest (binder.prepareAll (Template.partValues part)).2
            = (.ok others, last)
          ∧ texts
            = (part.map fun template =>
                template.render compiler.quoteChar binder.placeholderPrefix
                  binder.counter).toList ++ others := by
  rw [writeClauses]
  cases clause.template compiler.dialect query with
  | error error => simp
  | ok part =>
      cases part with
      | none => simp [Template.partValues, Binder.prepareAll, eq_comm]
      | some template =>
          simp only [Template.fill_eq, Except.ok.injEq, exists_and_left, exists_eq_left',
            Template.partValues, Option.elim_some]
          rcases compiler.writeClauses query rest
            (binder.prepareAll template.slotValues).2 with ⟨error | others, final⟩
          · simp [Except.map]
          · simp [Except.map, eq_comm, and_comm]

/-- What is written of some clauses is written of the first of them and then of the others, by
induction on the first.
-/
theorem writeClauses_append (left : List Clause) {right : List Clause}
    (written : compiler.writeClauses query (left ++ right) binder = (.ok texts, last))
    : ∃ front middle back,
        compiler.writeClauses query left binder = (.ok front, middle)
        ∧ compiler.writeClauses query right middle = (.ok back, last)
        ∧ texts = front ++ back := by
  induction left generalizing binder texts with
  | nil => exact ⟨[], binder, texts, rfl, written, rfl⟩
  | cons clause left ih =>
      obtain ⟨part, others, yields, tail, rfl⟩ := writeClauses_cons_eq_ok_iff.mp written
      obtain ⟨front, middle, back, first, second, rfl⟩ := ih tail
      refine ⟨_ ++ front, middle, back, ?_, second, (List.append_assoc ..).symm⟩
      exact writeClauses_cons_eq_ok_iff.mpr ⟨part, front, yields, first, rfl⟩

/-- Writing clauses binds the values of the clauses, by induction on them. -/
theorem writeClauses_binder {clauses : List Clause}
    (written : compiler.writeClauses query clauses binder = (.ok texts, last))
    : last = (binder.prepareAll (clauses.flatMap (Clause.boundValues query))).2 := by
  induction clauses generalizing binder texts with
  | nil => exact (Prod.mk.inj written).2.symm
  | cons clause clauses ih =>
      obtain ⟨part, others, yields, tail, rfl⟩ := writeClauses_cons_eq_ok_iff.mp written
      rw [ih tail, Clause.partValues_template yields, List.flatMap_cons,
        Binder.prepareAll_append]

/-- Clauses that bind nothing leave the binder as it is. -/
theorem writeClauses_binder_eq {clauses : List Clause}
    (unbound : clauses.flatMap (Clause.boundValues query) = [])
    (written : compiler.writeClauses query clauses binder = (.ok texts, last))
    : last = binder := by
  rw [writeClauses_binder written, unbound, Binder.prepareAll]

/-- A clause of criteria is written as the criteria are built on their own. -/
theorem writeClauses_headed {clause : Clause} {criteria : Criteria} {keyword : String}
    (yields
      : clause.template compiler.dialect query = .ok (criteria.template.headed keyword))
    (written : compiler.writeClauses query [clause] binder = (.ok texts, last))
    : ∃ sql,
        compiler.buildCriteria criteria (some binder) = .ok (sql, some last)
        ∧ texts = headedText keyword sql := by
  obtain ⟨part, others, isPart, tail, rfl⟩ := writeClauses_cons_eq_ok_iff.mp written
  obtain ⟨noOthers, isLast⟩ := Prod.mk.inj tail
  obtain rfl := Except.ok.inj noOthers
  obtain rfl := Except.ok.inj (isPart.symm.trans yields)
  rw [Template.partValues_headed] at isLast
  subst isLast
  refine ⟨_, compiler.buildCriteria_some criteria binder, ?_⟩
  rw [List.append_nil]
  exact Template.toList_render_headed ..

/-- Criteria among other clauses are built with the binder that the clauses before them leave, and
the clauses behind them are written with the binder that they leave.
-/
theorem writeClauses_around (front : List Clause) {back : List Clause} {clause : Clause}
    {criteria : Criteria} (keyword : String)
    (yields
      : clause.template compiler.dialect query = .ok (criteria.template.headed keyword))
    (written : compiler.writeClauses query (front ++ clause :: back) binder = (.ok texts, last))
    : ∃ before start sql middle behind,
        compiler.writeClauses query front binder = (.ok before, start)
        ∧ compiler.buildCriteria criteria (some start) = .ok (sql, some middle)
        ∧ compiler.writeClauses query back middle = (.ok behind, last)
        ∧ texts = before ++ headedText keyword sql ++ behind := by
  obtain ⟨before, start, rest, first, others, rfl⟩ := writeClauses_append front written
  obtain ⟨shown, middle, behind, one, second, rfl⟩ := writeClauses_append [clause] others
  obtain ⟨sql, built, rfl⟩ := writeClauses_headed yields one
  exact ⟨before, start, sql, middle, behind, first, built, second, by simp⟩

theorem writeClauses_table (compiler : Compiler) (query : Query) (binder : Binder)
    : compiler.writeClauses query [.table] binder
      = (.ok [Identifier.quote compiler.quoteChar query.table], binder) := by
  simp [writeClauses, Clause.template, Template.ofName, Template.fill, Except.map]

-----------------------------------------------------------------------------------------
-- Statements with criteria
-----------------------------------------------------------------------------------------

/-- A compiled statement is its keyword and what is written of its clauses. -/
theorem exists_writeClauses {kind : StatementKind} {after : Query} {compiled : Compiled}
    (ok : compiler.compile kind query = (.ok compiled, after))
    : ∃ texts last,
        compiler.writeClauses query (compiler.plan.clauses kind) query.binder = (.ok texts, last)
        ∧ compiled.sql = String.intercalate " " (kind.keyword :: texts)
        ∧ after = { query with binder := last } := by
  rw [compile_eq_writeClauses] at ok
  generalize compiler.writeClauses query (compiler.plan.clauses kind) query.binder
    = written at ok ⊢
  obtain ⟨outcome, last⟩ := written
  cases outcome with
  | error error => cases ok
  | ok texts =>
      cases ok
      exact ⟨texts, last, rfl, rfl, rfl⟩

/-- Criteria have no text only if each of their entries is a raw fragment of blanks. -/
theorem buildCriteria_eq_empty_iff (compiler : Compiler) (criteria : Criteria) (binder : Binder)
    : ∃ sql last,
        compiler.buildCriteria criteria (some binder) = .ok (sql, some last)
        ∧ (sql = "" ↔ ∀ entry ∈ criteria.entries, entry.IsBlank) := by
  refine ⟨_, _, compiler.buildCriteria_some criteria binder, ?_⟩
  rw [Template.render_eq_empty_iff, Criteria.isBlank_template_iff]

/-- No criteria are lost. A `DELETE` is its table and, unless they have no text, the criteria as
they are built on their own from its binder; in an `UPDATE` they are built from the binder that
holds the column values already, and in a `SELECT` those for groups from the binder that those for
rows leave. They have no text only if each entry is a raw fragment of blanks: a predicate always
shows, and so does any other fragment.
-/
theorem compile_writes_criteria (dialect : Dialect) (query : Query)
    : let compiler := forDialect dialect
      let build (criteria : Criteria) (binder : Binder) :=
        compiler.buildCriteria criteria (some binder)
      (∀ compiled after,
        compiler.compile .delete query = (.ok compiled, after)
        → ∃ sql last,
            build query.criteria query.binder = .ok (sql, some last)
            ∧ compiled.sql
              = "DELETE FROM " ++ Identifier.quote dialect.quoteChar query.table
                ++ (if sql = "" then "" else " WHERE " ++ sql)
            ∧ after = { query with binder := last })
      ∧ (∀ compiled after,
          compiler.compile .update query = (.ok compiled, after)
          → ∃ front assigned sql last back,
              compiler.writeClauses query [.table, .updateSet] query.binder
                = (.ok front, assigned)
              ∧ assigned = (query.binder.prepareAll query.assignedValues).2
              ∧ build query.criteria assigned = .ok (sql, some last)
              ∧ compiler.writeClauses query (Plan.updateExtras dialect) last = (.ok back, last)
              ∧ compiled.sql
                = String.intercalate " "
                    ("UPDATE" :: (front ++ headedText "WHERE" sql ++ back))
              ∧ after = { query with binder := last })
      ∧ (∀ compiled after,
          compiler.compile .select query = (.ok compiled, after)
          → ∃ front sql filtered groups groupSql last back,
              compiler.writeClauses query [.flags, .columns, .source, .tableAlias, .joins]
                  query.binder
                = (.ok front, query.binder)
              ∧ build query.criteria query.binder = .ok (sql, some filtered)
              ∧ compiler.writeClauses query [.groupBy] filtered = (.ok groups, filtered)
              ∧ build query.having filtered = .ok (groupSql, some last)
              ∧ compiler.writeClauses query (.orderBy :: (Plan.paging dialect ++ [.lock])) last
                = (.ok back, last)
              ∧ compiled.sql
                = String.intercalate " "
                    ("SELECT"
                      :: (front ++ headedText "WHERE" sql ++ groups
                        ++ headedText "HAVING" groupSql ++ back))
              ∧ after = { query with binder := last })
      ∧ (∀ criteria binder,
          ∃ sql last,
            build criteria binder = .ok (sql, some last)
            ∧ (sql = "" ↔ ∀ entry ∈ criteria.entries, entry.IsBlank)) := by
  intro compiler build
  refine ⟨?delete, ?update, ?select, ?blank⟩
  case delete =>
    intro compiled after ok
    obtain ⟨texts, last, written, isText, rfl⟩ := exists_writeClauses ok
    obtain ⟨front, start, sql, middle, back, table, built, nothing, rfl⟩ :=
      writeClauses_around [.table] "WHERE" rfl written
    obtain ⟨isFront, rfl⟩ := Prod.mk.inj ((writeClauses_table ..).symm.trans table)
    obtain rfl := Except.ok.inj isFront
    obtain ⟨isBack, rfl⟩ := Prod.mk.inj nothing
    obtain rfl := Except.ok.inj isBack
    refine ⟨sql, middle, built, ?_, rfl⟩
    rw [isText, List.append_nil]
    exact intercalate_headedText "DELETE FROM" (Identifier.quote dialect.quoteChar query.table)
      "WHERE" sql
  case update =>
    intro compiled after ok
    have unbound
        : (Plan.updateExtras dialect).flatMap (Clause.boundValues query) = [] := by
      cases dialect <;> rfl
    obtain ⟨texts, last, written, isText, rfl⟩ := exists_writeClauses ok
    obtain ⟨front, assigned, sql, middle, back, set, built, extras, rfl⟩ :=
      writeClauses_around [.table, .updateSet] "WHERE" rfl written
    obtain rfl := writeClauses_binder_eq unbound extras
    refine ⟨front, assigned, sql, last, back, set, ?_, built, extras, isText, rfl⟩
    simpa [Clause.boundValues] using writeClauses_binder set
  case select =>
    intro compiled after ok
    have unbound
        : (.orderBy :: (Plan.paging dialect ++ [.lock])).flatMap (Clause.boundValues query)
          = [] := by
      cases dialect <;> rfl
    obtain ⟨texts, last, written, isText, rfl⟩ := exists_writeClauses ok
    obtain ⟨front, start, sql, filtered, rest, first, built, others, rfl⟩ :=
      writeClauses_around [.flags, .columns, .source, .tableAlias, .joins] "WHERE" rfl written
    obtain ⟨groups, grouped, groupSql, chosen, back, group, builtGroups, extras, rfl⟩ :=
      writeClauses_around [.groupBy] "HAVING" rfl others
    obtain rfl := writeClauses_binder_eq rfl first
    obtain rfl := writeClauses_binder_eq rfl group
    obtain rfl := writeClauses_binder_eq unbound extras
    refine ⟨front, sql, grouped, groups, groupSql, last, back, first, built, group, builtGroups,
      extras, ?_, rfl⟩
    rw [isText]
    simp [StatementKind.keyword]
  case blank =>
    exact compiler.buildCriteria_eq_empty_iff

/-- A blank fragment, an empty list and a fragment with a connector of its own: the placeholders of
an `UPDATE` are numbered behind its column values, those of a `DELETE` are not.
-/
theorem compile_writes_criteria_emptyList
    : let query : Query :=
        { table := "t"
          values := [("a", .bind (.int 1)), ("b", .raw "NOW()")]
          criteria :=
            ⟨[.raw " \t", .predicate ⟨"c", .isIn [], .or⟩, .raw "or d > 0",
              .predicate ⟨"e", .like (.bind (.text "x")), .or⟩]⟩
          limit := some 5 }
      let compiler := forDialect .mysql
      let deleted : Compiled :=
        { kind := .delete
          dialect := .mysql
          sql := "DELETE FROM \x60t\x60 WHERE 1 = 0 AND d > 0 OR \x60e\x60 LIKE :db_prep_1"
          bound := [⟨":db_prep_1", .text "x"⟩] }
      let updated : Compiled :=
        { kind := .update
          dialect := .mysql
          sql :=
            "UPDATE \x60t\x60 SET \x60a\x60 = :db_prep_1, \x60b\x60 = NOW()"
              ++ " WHERE 1 = 0 AND d > 0 OR \x60e\x60 LIKE :db_prep_2 LIMIT 5"
          bound := [⟨":db_prep_1", .int 1⟩, ⟨":db_prep_2", .text "x"⟩] }
      (compiler.compile .delete query).1 = .ok deleted
      ∧ (compiler.compile .update query).1 = .ok updated
      ∧ (∃ sql last,
          compiler.buildCriteria query.criteria (some query.binder) = .ok (sql, some last)
          ∧ deleted.sql
            = "DELETE FROM " ++ Identifier.quote '\x60' "t"
              ++ (if sql = "" then "" else " WHERE " ++ sql))
      ∧ (∃ front assigned sql last back,
          assigned = (query.binder.prepareAll [.int 1]).2
          ∧ compiler.buildCriteria query.criteria (some assigned) = .ok (sql, some last)
          ∧ updated.sql
            = String.intercalate " " ("UPDATE" :: (front ++ headedText "WHERE" sql ++ back))) := by
  intro query compiler deleted updated
  have deleteOk : (compiler.compile .delete query).1 = .ok deleted := by decide +kernel
  have updateOk : (compiler.compile .update query).1 = .ok updated := by decide +kernel
  obtain ⟨ofDelete, ofUpdate, -, -⟩ := compile_writes_criteria .mysql query
  obtain ⟨sql, last, built, text, -⟩ := ofDelete deleted _ (Prod.ext deleteOk rfl)
  obtain ⟨front, assigned, part, final, back, -, isAssigned, builtBehind, -, textBehind, -⟩ :=
    ofUpdate updated _ (Prod.ext updateOk rfl)
  exact ⟨deleteOk, updateOk, ⟨sql, last, built, text⟩,
    ⟨front, assigned, part, final, back, isAssigned, builtBehind, textBehind⟩⟩

end Compiler

end SqlCompiler
