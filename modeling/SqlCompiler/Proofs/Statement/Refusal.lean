import SqlCompiler.Proofs.Statement.Writing

/-! The queries that cannot be compiled: those that ask for a row lock where there is none, and
those that write no column values. Nothing else is refused, and a refusal changes nothing.
-/

namespace SqlCompiler

/-- Why a clause cannot be written, if it cannot. -/
def Clause.refusal? (dialect : Dialect) (query : Query) : Clause → Option CompileError
  | .lock =>
      if query.forUpdate && !dialect.supportsRowLocks then some (.rowLockUnavailable dialect)
      else none
  | .insertColumns => if query.values.isEmpty then some (.missingValues .insert) else none
  | .updateSet => if query.values.isEmpty then some (.missingValues .update) else none
  | _ => none

/-- Why a query cannot be compiled to a statement of a kind, if it cannot. -/
def Query.refusal? (dialect : Dialect) (query : Query) : StatementKind → Option CompileError
  | .select => Clause.lock.refusal? dialect query
  | .insert => Clause.insertColumns.refusal? dialect query
  | .update => Clause.updateSet.refusal? dialect query
  | .delete => none

/-- A list is refused for the reason of the first member that is, by induction on the list. -/
theorem mapM_eq_error_iff {α β ε : Type} {f : α → Except ε β} {refusal? : α → Option ε}
    (refuses : ∀ a error, f a = .error error ↔ refusal? a = some error) {as : List α}
    {error : ε}
    : as.mapM f = .error error ↔ as.findSome? refusal? = some error := by
  induction as with
  | nil => simp [pure, Except.pure]
  | cons a as ih =>
      rw [List.mapM_cons, List.findSome?_cons]
      cases outcome : f a with
      | error cause =>
          rw [(refuses a cause).mp outcome]
          simp [bind, Except.bind]
      | ok b =>
          have accepted : refusal? a = none := by
            refine Option.eq_none_iff_forall_ne_some.mpr ?_
            intro cause refused
            cases outcome.symm.trans ((refuses a cause).mpr refused)
          rw [accepted, ← ih]
          cases as.mapM f <;> simp [bind, Except.bind, pure, Except.pure]

/-- Clauses fail for the reasons given and for no others, by cases on the clause. -/
theorem Clause.template_eq_error_iff {dialect : Dialect} {query : Query} (clause : Clause)
    (error : CompileError)
    : clause.template dialect query = .error error
      ↔ clause.refusal? dialect query = some error := by
  cases clause with
  | lock =>
      cases locked : query.forUpdate <;> cases dialect <;>
        simp [template, refusal?, locked, Dialect.supportsRowLocks]
  | insertColumns =>
      rw [template_insertColumns, refusal?]
      split <;> simp
  | updateSet =>
      rw [template_updateSet, refusal?]
      split <;> simp
  | _ => simp [template, refusal?]

/-- The only clause of a plan that may be refused decides for the whole statement. -/
theorem Plan.findSome?_refusal? (dialect : Dialect) (kind : StatementKind) (query : Query)
    : ((forDialect dialect).clauses kind).findSome? (Clause.refusal? dialect query)
      = query.refusal? dialect kind := by
  have first (clause : Clause) (rest : List Clause)
      : (clause :: rest).findSome? (Clause.refusal? dialect query)
        = (clause.refusal? dialect query).or (rest.findSome? (Clause.refusal? dialect query)) := by
    rw [List.findSome?_cons]
    cases clause.refusal? dialect query <;> rfl
  cases kind <;> cases dialect <;>
    simp [forDialect, clauses, paging, updateExtras, Dialect.supportsReturning, first,
      Clause.refusal?, Query.refusal?]

/-- The two reasons in full: a `SELECT` asks SQLite for a row lock, or an `INSERT` or `UPDATE` has
no column values.
-/
theorem Query.refusal?_eq_some_iff {dialect : Dialect} {query : Query} {kind : StatementKind}
    {error : CompileError}
    : query.refusal? dialect kind = some error
      ↔ (kind = .select
          ∧ dialect = .sqlite
          ∧ query.forUpdate = true
          ∧ error = .rowLockUnavailable .sqlite)
        ∨ ((kind = .insert ∨ kind = .update)
          ∧ query.values = []
          ∧ error = .missingValues kind) := by
  cases kind with
  | select =>
      cases dialect <;>
        simp [refusal?, Clause.refusal?, Dialect.supportsRowLocks, @eq_comm _ error]
  | insert | update => simp [refusal?, Clause.refusal?, @eq_comm _ error]
  | delete => simp [refusal?]

namespace Compiler

theorem template_eq_error_iff {dialect : Dialect} {kind : StatementKind} {query : Query}
    {error : CompileError}
    : (forDialect dialect).template kind query = .error error
      ↔ query.refusal? dialect kind = some error := by
  rw [← Plan.findSome?_refusal?, ← mapM_eq_error_iff Clause.template_eq_error_iff, template]
  simp only [forDialect]
  cases ((Plan.forDialect dialect).clauses kind).mapM (Clause.template dialect query) <;>
    simp [bind, Except.bind, pure, Except.pure]

theorem compile_eq_error_iff {dialect : Dialect} {kind : StatementKind} {query : Query}
    {error : CompileError}
    : ((forDialect dialect).compile kind query).1 = .error error
      ↔ query.refusal? dialect kind = some error := by
  rw [← template_eq_error_iff, compile_eq]
  cases (forDialect dialect).template kind query <;> simp

/-- When a compilation fails, writing the clauses has failed, and what they had bound by then is
dropped with the working copy.
-/
theorem compile_error {compiler : Compiler} {kind : StatementKind} {query : Query}
    {error : CompileError} (failed : (compiler.compile kind query).1 = .error error)
    : (compiler.writeClauses query (compiler.plan.clauses kind) query.binder).1 = .error error
      ∧ (compiler.compile kind query).2 = query := by
  rw [compile_eq_writeClauses] at failed ⊢
  generalize compiler.writeClauses query (compiler.plan.clauses kind) query.binder
    = written at failed ⊢
  obtain ⟨outcome, binder⟩ := written
  cases outcome with
  | error cause => exact ⟨congrArg Except.error (Except.error.inj failed), rfl⟩
  | ok texts => cases failed

/-- A successful compilation changes the binder alone, and there it only adds the bindings that
are reported.
-/
theorem compile_success {compiler : Compiler} {kind : StatementKind} {query : Query}
    {compiled : Compiled} (succeeded : (compiler.compile kind query).1 = .ok compiled)
    : let after := (compiler.compile kind query).2
      after = { query with binder := after.binder }
      ∧ query.binder.bindings <+: after.binder.bindings
      ∧ compiled.bound = after.binder.bindings.drop query.binder.size := by
  intro after
  have bindings : after.binder.bindings = query.binder.bindings ++ compiled.bound := by
    have added := compiler.compile_bindings kind query
    rwa [succeeded] at added
  obtain ⟨template, _, _, _, isAfter⟩ := compile_ok (Prod.ext succeeded rfl)
  refine ⟨?_, ⟨compiled.bound, bindings.symm⟩, ?_⟩
  · change after = _ at isAfter
    rw [isAfter]
  · rw [bindings, Binder.size, List.drop_left]

/-- Compiling fails for two reasons and for no other: a `SELECT` is to lock rows in SQLite, or an
`INSERT` or `UPDATE` has no column values. Never does it lack a binder. A failure leaves the
whole query as it was, whatever the clauses before the refused one have bound; a success leaves
everything but the binder, whose earlier bindings stay in front of the ones that are reported.
-/
theorem compile_fails_iff (dialect : Dialect) (kind : StatementKind) (query : Query)
    : let compiler := forDialect dialect
      let written := compiler.writeClauses query (compiler.plan.clauses kind) query.binder
      let outcome := compiler.compile kind query
      (∀ error,
        outcome.1 = .error error
        ↔ (kind = .select
            ∧ dialect = .sqlite
            ∧ query.forUpdate = true
            ∧ error = .rowLockUnavailable .sqlite)
          ∨ ((kind = .insert ∨ kind = .update)
            ∧ query.values = []
            ∧ error = .missingValues kind))
      ∧ (∀ column, outcome.1 ≠ .error (.missingBinder column))
      ∧ (∀ error, outcome.1 = .error error → written.1 = .error error ∧ outcome.2 = query)
      ∧ (∀ compiled,
          outcome.1 = .ok compiled
          → outcome.2 = { query with binder := outcome.2.binder }
            ∧ query.binder.bindings <+: outcome.2.binder.bindings
            ∧ compiled.bound = outcome.2.binder.bindings.drop query.binder.size) := by
  intro compiler written outcome
  have fails (error : CompileError)
      : outcome.1 = .error error ↔ query.refusal? dialect kind = some error :=
    compile_eq_error_iff
  refine ⟨fun error => (fails error).trans Query.refusal?_eq_some_iff, ?_, ?_, ?_⟩
  · intro column failed
    rcases Query.refusal?_eq_some_iff.mp ((fails _).mp failed) with
      ⟨_, _, _, other⟩ | ⟨_, _, other⟩
    · cases other
    · cases other
  · exact fun error failed => compile_error failed
  · exact fun compiled succeeded => compile_success succeeded

/-- The clauses before the lock have bound two values by the time it is refused; the query gets
neither.
-/
theorem compile_fails_iff_locked
    : let query : Query :=
        { table := "t"
          criteria := ⟨[.predicate ⟨"a", .compare .eq (.bind (.int 1)), .and⟩]⟩
          having := ⟨[.predicate ⟨"b", .isIn [.bind .null, .raw "0"], .and⟩]⟩
          forUpdate := true
          binder := (Binder.prepare {} (.bool true)).2 }
      let compiler := forDialect .sqlite
      let written := compiler.writeClauses query (compiler.plan.clauses .select) query.binder
      written.1 = .error (.rowLockUnavailable .sqlite)
      ∧ written.2.values = [.bool true, .int 1, .null]
      ∧ compiler.compile .select query = (.error (.rowLockUnavailable .sqlite), query)
      ∧ query.binder.values = [.bool true] := by
  intro query compiler written
  obtain ⟨fails, _, restores, _⟩ := compile_fails_iff .sqlite .select query
  have failed
      : (compiler.compile .select query).1 = .error (.rowLockUnavailable .sqlite) :=
    (fails _).mpr (Or.inl ⟨rfl, rfl, rfl, rfl⟩)
  obtain ⟨refused, restored⟩ := restores _ failed
  exact ⟨refused, by decide +kernel, Prod.ext failed restored, rfl⟩

end Compiler

end SqlCompiler
