import SqlCompiler.Proofs.Query.Edit
import SqlCompiler.Proofs.Template.Filling

/-! What any sequence of operations does to a binder, on its own or inside the query that owns
it. Between two resets values are only ever added, each under the next number.
-/

namespace SqlCompiler

-----------------------------------------------------------------------------------------
-- Operations and their runs
-----------------------------------------------------------------------------------------

/-- A binder as it is made: with the prefix of its own, by default, or with one that was asked
for.
-/
def Binder.Created (binder : Binder) : Prop :=
  binder = {} ∨ binder = default ∨ ∃ text, Binder.withPrefix text = .ok binder

/-- Every binder starts well numbered. -/
theorem Binder.Created.wellNumbered {binder : Binder} (created : binder.Created)
    : binder.WellNumbered := by
  rcases created with rfl | rfl | ⟨text, created⟩
  · exact .empty (by decide)
  · exact .empty (by decide)
  · exact .withPrefix created

/-- An operation on a query or on the binder it owns. A binder without a query is one in an
empty query.
-/
inductive Operation
  | prepare (value : SqlValue)
  | prepareAll (values : List SqlValue)
  | buildCriteria (dialect : Dialect) (criteria : Criteria)
  | compile (dialect : Dialect) (kind : StatementKind)
  | edit (edit : Query.Edit)
  | resetBinder
  | reset

namespace Operation

/-- The operation makes the binder forget its bindings. -/
def resets : Operation → Bool
  | resetBinder | reset => true
  | prepare _ | prepareAll _ | buildCriteria _ _ | compile _ _ | edit _ => false

/-- The operation changes more of the query than its binder. -/
def editsQuery : Operation → Bool
  | edit _ | reset => true
  | prepare _ | prepareAll _ | buildCriteria _ _ | compile _ _ | resetBinder => false

/-- Runs an operation. Besides the query after it, the placeholders that the operation has
handed out come back, with the values they were handed out for.
-/
def step (query : Query) : Operation → List Binding × Query
  | prepare value =>
      let (token, binder) := query.binder.prepare value
      ([⟨token, value⟩], { query with binder })
  | prepareAll values =>
      let (tokens, binder) := query.binder.prepareAll values
      (tokens.zipWith Binding.mk values, { query with binder })
  | buildCriteria dialect criteria =>
      match (Compiler.forDialect dialect).buildCriteria criteria (some query.binder) with
      | .ok (_, some binder) =>
          (binder.bindings.drop query.binder.size, { query with binder })
      | .ok (_, none) | .error _ => ([], query)
  | compile dialect kind =>
      match (Compiler.forDialect dialect).compile kind query with
      | (.ok compiled, after) => (compiled.bound, after)
      | (.error _, after) => ([], after)
  | edit change => ([], change.apply query)
  | resetBinder => ([], { query with binder := query.binder.reset })
  | reset => ([], query.reset)

/-- Runs operations one after the other. -/
def run (query : Query) (operations : List Operation) : Query :=
  operations.foldl (fun query operation => (operation.step query).2) query

theorem run_append (query : Query) (left right : List Operation)
    : run query (left ++ right) = run (run query left) right := by
  simp [run]

-----------------------------------------------------------------------------------------
-- One step adds values or resets
-----------------------------------------------------------------------------------------

/-- Pairing the tokens of some values with the values gives their numbered bindings. -/
theorem zipWith_prepareAll (binder : Binder) (values : List SqlValue)
    : (binder.prepareAll values).1.zipWith Binding.mk values
      = Binder.numbered binder.placeholderPrefix binder.counter values := by
  rw [Binder.prepareAll_eq]
  exact Binder.zipWith_numbered ..

/-- An operation that resets nothing binds some values and hands out exactly their
placeholders, by cases on the operation. A compilation that fails binds none.
-/
theorem step_prepareAll (query : Query) {operation : Operation}
    (keeps : operation.resets = false)
    : ∃ values,
        (operation.step query).2.binder = (query.binder.prepareAll values).2
        ∧ (operation.step query).1
          = Binder.numbered query.binder.placeholderPrefix query.binder.counter values := by
  cases operation with
  | prepare value => exact ⟨[value], rfl, rfl⟩
  | prepareAll values => exact ⟨values, rfl, zipWith_prepareAll query.binder values⟩
  | buildCriteria dialect criteria =>
      refine ⟨criteria.template.slotValues, ?_, ?_⟩
      · simp only [step, Compiler.buildCriteria_some]
      · simp only [step, Compiler.buildCriteria_some, Binder.prepareAll_eq, Binder.size,
          List.drop_left]
  | compile dialect kind =>
      simp only [step, Compiler.compile_eq]
      cases (Compiler.forDialect dialect).template kind query with
      | error error => exact ⟨[], rfl, rfl⟩
      | ok template => exact ⟨template.slotValues, rfl, rfl⟩
  | edit change => exact ⟨[], Query.Edit.apply_binder query change, rfl⟩
  | resetBinder => cases keeps
  | reset => cases keeps

/-- An operation that resets empties the binder, whatever it does to the query. -/
theorem step_reset (query : Query) {operation : Operation}
    (resets : operation.resets = true)
    : (operation.step query).2.binder = query.binder.reset := by
  cases operation with
  | resetBinder => rfl
  | reset => rfl
  | prepare _ | prepareAll _ | buildCriteria _ _ | compile _ _ | edit _ => cases resets

theorem step_placeholderPrefix (query : Query) (operation : Operation)
    : (operation.step query).2.binder.placeholderPrefix
      = query.binder.placeholderPrefix := by
  cases resets : operation.resets with
  | true => rw [step_reset query resets, Binder.reset]
  | false =>
      obtain ⟨values, binder, _⟩ := step_prepareAll query resets
      rw [binder, Binder.prepareAll_eq]

theorem step_wellNumbered {query : Query} (h : query.binder.WellNumbered)
    (operation : Operation)
    : (operation.step query).2.binder.WellNumbered := by
  cases resets : operation.resets with
  | true => exact step_reset query resets ▸ h.reset
  | false =>
      obtain ⟨values, binder, _⟩ := step_prepareAll query resets
      exact binder ▸ h.prepareAll values

/-- Without a reset the bindings before a step stay, in their places. -/
theorem step_keeps_bindings (query : Query) {operation : Operation}
    (keeps : operation.resets = false)
    : query.binder.bindings <+: (operation.step query).2.binder.bindings := by
  obtain ⟨values, binder, _⟩ := step_prepareAll query keeps
  rw [binder, Binder.prepareAll_eq]
  exact List.prefix_append ..

/-- What a step hands out is among the bindings after it. -/
theorem step_handedOut_mem (query : Query) {operation : Operation} {binding : Binding}
    (member : binding ∈ (operation.step query).1)
    : binding ∈ (operation.step query).2.binder.bindings := by
  cases resets : operation.resets with
  | true =>
      cases operation with
      | resetBinder | reset => cases member
      | prepare _ | prepareAll _ | buildCriteria _ _ | compile _ _ | edit _ => cases resets
  | false =>
      obtain ⟨values, binder, handedOut⟩ := step_prepareAll query resets
      rw [binder, Binder.prepareAll_eq]
      exact List.mem_append_right _ (handedOut ▸ member)

/-- An operation that does not edit the query leaves all but its binder, by cases on the
operation.
-/
theorem step_query (query : Query) {operation : Operation}
    (keeps : operation.editsQuery = false)
    : ∃ binder, (operation.step query).2 = { query with binder } := by
  cases operation with
  | prepare value => exact ⟨_, rfl⟩
  | prepareAll values => exact ⟨_, rfl⟩
  | buildCriteria dialect criteria =>
      simp only [step, Compiler.buildCriteria_some]
      exact ⟨_, rfl⟩
  | compile dialect kind =>
      simp only [step, Compiler.compile_eq]
      cases (Compiler.forDialect dialect).template kind query with
      | error error => exact ⟨query.binder, rfl⟩
      | ok template => exact ⟨_, rfl⟩
  | resetBinder => exact ⟨_, rfl⟩
  | edit change => cases keeps
  | reset => cases keeps

-----------------------------------------------------------------------------------------
-- Whole runs
-----------------------------------------------------------------------------------------

theorem run_query (query : Query) {operations : List Operation}
    (keeps : ∀ operation ∈ operations, operation.editsQuery = false)
    : ∃ binder, run query operations = { query with binder } := by
  induction operations generalizing query with
  | nil => exact ⟨query.binder, rfl⟩
  | cons operation operations ih =>
      obtain ⟨first, rest⟩ := List.forall_mem_cons.mp keeps
      obtain ⟨next, stepped⟩ := step_query query first
      obtain ⟨last, ran⟩ := ih (operation.step query).2 rest
      refine ⟨last, ran.trans ?_⟩
      rw [stepped]

theorem run_placeholderPrefix (query : Query) (operations : List Operation)
    : (run query operations).binder.placeholderPrefix = query.binder.placeholderPrefix := by
  induction operations generalizing query with
  | nil => rfl
  | cons operation operations ih =>
      exact (ih (operation.step query).2).trans (step_placeholderPrefix query operation)

theorem run_wellNumbered {query : Query} (h : query.binder.WellNumbered)
    (operations : List Operation)
    : (run query operations).binder.WellNumbered := by
  induction operations generalizing query with
  | nil => exact h
  | cons operation operations ih => exact ih (step_wellNumbered h operation)

/-- Bindings outlive every run without a reset. -/
theorem run_keeps_bindings (query : Query) {operations : List Operation}
    (keeps : ∀ operation ∈ operations, operation.resets = false)
    : query.binder.bindings <+: (run query operations).binder.bindings := by
  induction operations generalizing query with
  | nil => exact List.prefix_rfl
  | cons operation operations ih =>
      obtain ⟨first, rest⟩ := List.forall_mem_cons.mp keeps
      exact (step_keeps_bindings query first).trans (ih (operation.step query).2 rest)

/-- After any run the prefix is the one the binder was made with, and fit for SQL text; the
counter is one ahead of the bindings, whose placeholders are numbered from one, all distinct,
and none lost in the map. What a step handed out resolves to the value it was handed out for
until a reset. Counters are natural numbers here, so no number of values is too large.
-/
theorem run_binder (query : Query) (created : query.binder.Created)
    (operations : List Operation)
    : let binder := (run query operations).binder
      binder.placeholderPrefix = query.binder.placeholderPrefix
      ∧ binder.placeholderPrefix ≠ ""
      ∧ (∀ c ∈ binder.placeholderPrefix.toList, c.isAlphanum ∨ c = '_')
      ∧ binder.counter = binder.bindings.length + 1
      ∧ (∀ (i : Nat) (bound : i < binder.bindings.length),
          binder.bindings[i].placeholder
            = ":" ++ binder.placeholderPrefix ++ toString (i + 1))
      ∧ (binder.bindings.map (·.placeholder)).Nodup
      ∧ binder.toMap.size = binder.size
      ∧ ∀ before operation after,
          operations = before ++ operation :: after
          → (∀ later ∈ after, later.resets = false)
          → ∀ binding ∈ (operation.step (run query before)).1,
              binder.get? binding.placeholder = some binding.value := by
  intro binder
  have numbered : binder.WellNumbered := run_wellNumbered created.wellNumbered operations
  obtain ⟨nonempty, chars⟩ := Binder.isPlaceholderPrefix_iff.mp numbered.validPrefix
  refine ⟨run_placeholderPrefix query operations, nonempty, chars, numbered.counter,
    numbered.placeholder_getElem, numbered.nodup, numbered.toMap_size, ?_⟩
  intro before operation after split keeps binding handedOut
  apply numbered.get?
  have final : binder = (run (operation.step (run query before)).2 after).binder := by
    simp only [binder, split, run_append]
    rfl
  rw [final]
  exact (run_keeps_bindings _ keeps).subset (step_handedOut_mem _ handedOut)

/-- Two values are bound and a compilation fails; after a reset the first token is handed out
again, for another value, which it still stands for once a statement has been compiled.
-/
theorem run_binder_rebound
    : let query := Query.withBinder { placeholderPrefix := "p1_" }
      let before := [.prepareAll [.null, .bool true], .compile .pgsql .insert, .reset]
      let after := [.edit (.value "a" (.bind .null)), .compile .pgsql .insert]
      query.binder.Created
      ∧ (∀ later ∈ after, later.resets = false)
      ∧ (run query (before ++ .prepare (.bool false) :: after)).binder.get? ":p1_1"
        = some (.bool false) := by
  intro query before after
  have created : query.binder.Created := Or.inr (Or.inr ⟨"p1_", rfl⟩)
  have keeps : ∀ later ∈ after, later.resets = false := by decide
  obtain ⟨_, _, _, _, _, _, _, resolves⟩ :=
    run_binder query created (before ++ .prepare (.bool false) :: after)
  have token : (⟨":p1_1", .bool false⟩ : Binding)
      ∈ (step (run query before) (.prepare (.bool false))).1 :=
    List.mem_singleton.mpr (by decide)
  have resolved := resolves before (.prepare (.bool false)) after rfl keeps _ token
  exact ⟨created, keeps, resolved⟩

end Operation

end SqlCompiler
