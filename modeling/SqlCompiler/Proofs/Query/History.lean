import SqlCompiler.Proofs.Binder.Run
import SqlCompiler.Proofs.OrderedMap
import SqlCompiler.Proofs.Statement.Assignment

/-! Which column values a query has after any sequence of operations. A value is assigned behind
those before it, a list of values takes their place, and a reset leaves none. The query has what is
left of the assignments: each column where it first comes up, with its last value.
-/

namespace SqlCompiler

/-- Setters of anything else leave the column values, by cases on the setter. -/
theorem Query.Edit.apply_values (query : Query) (edit : Edit)
    : (edit.apply query).values
      = match edit with
        | .value name assigned => OrderedMap.set name assigned query.values
        | .values assigned => OrderedMap.ofList assigned
        | _ => query.values := by
  cases edit with
  | whereCondition column keyword operand =>
      simp only [apply]
      cases set : query.whereCondition column keyword operand with
      | error error => rfl
      | ok next =>
          obtain ⟨criteria, rfl⟩ := whereCondition_ok set
          rfl
  | _ => rfl

namespace Operation

/-- The assignments that count after an operation, given those that counted before it. -/
def assign (before : List (String × Value)) : Operation → List (String × Value)
  | edit (.value column value) => before ++ [(column, value)]
  | edit (.values values) => values
  | reset => []
  | _ => before

/-- The assignments that count after operations on a query that had no values. -/
def assignments (operations : List Operation) : List (String × Value) :=
  operations.foldl assign []

theorem step_keeps_values (query : Query) {operation : Operation}
    (keeps : operation.editsQuery = false)
    : (operation.step query).2.values = query.values := by
  obtain ⟨binder, stepped⟩ := step_query query keeps
  rw [stepped]

/-- An operation keeps the column values in step with the assignments, by cases on the operation.
-/
theorem step_values {query : Query} {before : List (String × Value)}
    (inStep : query.values = OrderedMap.ofList before) (operation : Operation)
    : (operation.step query).2.values = OrderedMap.ofList (operation.assign before) := by
  cases operation with
  | edit change =>
      refine (Query.Edit.apply_values query change).trans ?_
      cases change with
      | value column value =>
          rw [assign, OrderedMap.ofList_append_singleton, ← inStep]
      | values values => rfl
      | _ => exact inStep
  | reset => rfl
  | prepare _ | prepareAll _ | buildCriteria _ _ | compile _ _ | resetBinder =>
      exact Eq.trans (step_keeps_values query rfl) inStep

/-- The column values are those of the assignments after any run, by induction on the operations.
-/
theorem run_values {query : Query} {before : List (String × Value)}
    (inStep : query.values = OrderedMap.ofList before) (operations : List Operation)
    : (run query operations).values = OrderedMap.ofList (operations.foldl assign before) := by
  induction operations generalizing query before with
  | nil => exact inStep
  | cons operation operations ih => exact ih (step_values inStep operation)

theorem retains_run (binder : Binder) (operations : List Operation)
    : OrderedMap.Retains (assignments operations)
        (run (Query.withBinder binder) operations).values := by
  have noValues : (Query.withBinder binder).values = OrderedMap.ofList [] := rfl
  rw [run_values noValues operations]
  exact OrderedMap.retains_ofList (assignments operations)

/-- After any operations a query has every assigned column once, where it first comes up, with the
value assigned last. An `INSERT` lists the columns in this order and the texts of their values in
the same one, unless the only value is raw and empty, and an `UPDATE` assigns each text to its
column.
-/
theorem run_writes_values (binder : Binder) (operations : List Operation)
    : let query := run (Query.withBinder binder) operations
      OrderedMap.Retains (assignments operations) query.values
      ∧ (query.values ≠ []
        → ∀ dialect,
            Compiler.WritesValues dialect query
              ((OrderedMap.keys query.values).map (Identifier.quote dialect.quoteChar))
              (query.values.map (·.2))) :=
  ⟨retains_run binder operations, fun assigned dialect =>
    Compiler.writesValues dialect assigned⟩

/-- A reset and a list of values that names a column twice each make the query forget what it had;
the column stays in front, and a later value of the other one does not move it.
-/
theorem run_writes_values_replaced
    : let operations :=
        [ .edit (.table "t"), .edit (.value "c" (.bind .null)), .reset,
          .edit (.value "c" (.bind .null)),
          .edit (.values [("b", .raw "1"), ("a", .raw "2"), ("b", .bind (.int 3))]),
          .compile .pgsql .insert, .edit (.value "a" (.raw "NOW()")) ]
      let query := run (Query.withBinder {}) operations
      query.values ≠ []
      ∧ OrderedMap.Retains
          [("b", .raw "1"), ("a", .raw "2"), ("b", .bind (.int 3)), ("a", .raw "NOW()")]
          query.values
      ∧ query.values = [("b", .bind (.int 3)), ("a", .raw "NOW()")]
      ∧ Compiler.WritesValues .mysql query ["\x60b\x60", "\x60a\x60"]
          [.bind (.int 3), .raw "NOW()"] := by
  intro operations query
  have values
      : (run (Query.withBinder {}) operations).values
        = [("b", .bind (.int 3)), ("a", .raw "NOW()")] := by
    decide +kernel
  have assigned : (run (Query.withBinder {}) operations).values ≠ [] := by simp [values]
  have names
      : (OrderedMap.keys [("b", Value.bind (.int 3)), ("a", .raw "NOW()")]).map
          (Identifier.quote Dialect.mysql.quoteChar)
        = ["\x60b\x60", "\x60a\x60"] := by
    decide
  obtain ⟨retains, writes⟩ := run_writes_values {} operations
  have written := writes assigned .mysql
  rw [values, names] at written
  exact ⟨assigned, retains, values, written⟩

/-- The only value of a column is replaced by a raw one without text: it is the value of the column,
but an `INSERT` leaves it out.
-/
theorem run_insert_withoutValues
    : let operations :=
        [ .edit (.table "t"), .edit (.value "a" (.bind (.int 1))),
          .edit (.value "a" (.raw "")) ]
      let query := run (Query.withBinder {}) operations
      query.values = [("a", .raw "")]
      ∧ ((Compiler.forDialect .pgsql).compile .insert query).1
        = .ok
            { kind := .insert
              dialect := .pgsql
              sql := "INSERT INTO \"t\" ( \"a\" )"
              bound := [] } := by
  decide +kernel

end Operation

end SqlCompiler
