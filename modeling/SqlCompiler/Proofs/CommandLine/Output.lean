import SqlCompiler.CommandLine.FileTree
import SqlCompiler.Proofs.Document.Passes
import SqlCompiler.Proofs.OrderedMap

/-! What compiling a document writes to the output: the statement and all of its bindings, or
nothing at all. The bindings are written as an object, which holds every one of them because no
placeholder is handed out twice.
-/

namespace SqlCompiler

theorem Document.toQuery_binder {document : Document} {binder : Binder} {query : Query}
    (ok : document.toQuery binder = .ok query)
    : query.binder = binder := by
  simp only [toQuery, bind_eq_ok_iff] at ok
  obtain ⟨_, -, _, -, _, -, _, -, same⟩ := ok
  obtain rfl := Except.ok.inj same
  rfl

namespace CommandLine

variable {config : Config} {text : String} {kind : StatementKind} {compiled : Compiled}
  {after : Query}

-----------------------------------------------------------------------------------------
-- From a document to its statement
-----------------------------------------------------------------------------------------

/-- The steps from the text of a document to a statement: the text is a document, the document
describes a query that owns a new binder, and that query compiles.
-/
inductive Compiles (config : Config) (text : String) (kind : StatementKind)
    : Compiled → Query → Prop
  | steps {binder : Binder} {document : Document} {query after : Query} {compiled : Compiled}
    (created : Binder.withPrefix config.placeholderPrefix = .ok binder)
    (parsed : Document.ofText? text = some document)
    (translated : document.toQuery binder = .ok query)
    (ok : (Compiler.forConfig config).compile kind query = (.ok compiled, after))
    : Compiles config text kind compiled after

/-- A document is compiled exactly if every step succeeds. -/
theorem compileDocument_eq_ok_iff
    : compileDocument config text kind = .ok compiled
      ↔ ∃ after, Compiles config text kind compiled after := by
  rw [compileDocument]
  cases parsed : Document.ofText? text with
  | none =>
      constructor
      · intro ok
        obtain ⟨_, -, impossible⟩ := bind_eq_ok_iff.mp ok
        cases impossible
      · rintro ⟨_, ⟨_, found, -, -⟩⟩
        cases parsed.symm.trans found
  | some document =>
      simp only [bind_eq_ok_iff, mapError_eq_ok_iff]
      constructor
      · rintro ⟨binder, created, query, translated, ok⟩
        exact ⟨_, .steps created parsed translated (Prod.ext ok rfl)⟩
      · rintro ⟨after, ⟨created, found, translated, ok⟩⟩
        obtain rfl := Option.some.inj (parsed.symm.trans found)
        exact ⟨_, created, _, translated, congrArg Prod.fst ok⟩

/-- A document that is refused compiles to nothing, under the configuration and in the text that are
read.
-/
theorem not_compiles_of_error {failure : Failure} {reading : Except Failure Config}
    {given : Except Failure String} (configured : reading = .ok config) (isText : given = .ok text)
    (refused : compileDocument config text kind = .error failure)
    : ¬ ∃ config text compiled after,
        reading = .ok config ∧ given = .ok text ∧ Compiles config text kind compiled after := by
  rintro ⟨_, _, compiled, after, isConfig, same, compiles⟩
  obtain rfl := Except.ok.inj (configured.symm.trans isConfig)
  obtain rfl := Except.ok.inj (isText.symm.trans same)
  cases refused.symm.trans (compileDocument_eq_ok_iff.mpr ⟨after, compiles⟩)

/-- All bindings of the query are those of the statement, since its binder is a new one. -/
theorem Compiles.bound_eq (compiles : Compiles config text kind compiled after)
    : compiled.bound = after.bindings := by
  obtain @⟨_, _, query, _, _, created, -, translated, ok⟩ := compiles
  obtain ⟨-, rfl⟩ := Binder.withPrefix_eq_ok_iff.mp created
  have added := (Compiler.forConfig config).compile_bindings kind query
  rw [ok, Document.toQuery_binder translated] at added
  exact added.symm

theorem Compiles.wellNumbered (compiles : Compiles config text kind compiled after)
    : after.binder.WellNumbered
      ∧ after.binder.placeholderPrefix = config.placeholderPrefix := by
  obtain ⟨created, -, translated, ok⟩ := compiles
  obtain ⟨template, -, -, -, rfl⟩ := Compiler.compile_ok ok
  rw [Document.toQuery_binder translated]
  refine ⟨(Binder.WellNumbered.withPrefix created).prepareAll _, ?_⟩
  obtain ⟨-, rfl⟩ := Binder.withPrefix_eq_ok_iff.mp created
  rw [Binder.prepareAll_eq]

-----------------------------------------------------------------------------------------
-- What is written
-----------------------------------------------------------------------------------------

/-- Bindings with different placeholders are the members of their object, one for each. -/
theorem bindingsObject_eq {bindings : List Binding}
    (distinct : (bindings.map (·.placeholder)).Nodup)
    : bindingsObject bindings
      = .object
          (bindings.map fun binding => (binding.placeholder, .ofSqlValue binding.value)) := by
  rw [bindingsObject, OrderedMap.ofList_of_nodup]
  rwa [OrderedMap.keys, List.map_map]

/-- What is written about a document that compiles: the statement, and an object in which the
bindings stand in their order, under the placeholders from number one on.
-/
theorem Compiles.statementOutput_eq (compiles : Compiles config text kind compiled after)
    : let members :=
        after.bindings.map fun binding => (binding.placeholder, Json.ofSqlValue binding.value)
      statementOutput compiled
          = compiled.sql ++ "\n" ++ (Json.object members).pretty 0 ++ "\n"
        ∧ OrderedMap.keys members
          = (List.range' 1 after.bindings.length).map fun number =>
              ":" ++ config.placeholderPrefix ++ toString number := by
  intro members
  obtain ⟨numbered, samePrefix⟩ := compiles.wellNumbered
  constructor
  · have object : bindingsObject after.bindings = .object members :=
      bindingsObject_eq numbered.nodup
    rw [statementOutput, compiles.bound_eq, object]
  · have keys : OrderedMap.keys members = after.bindings.map (·.placeholder) := by
      rw [OrderedMap.keys, List.map_map]
      rfl
    rw [keys, ← samePrefix]
    exact numbered.placeholders

-----------------------------------------------------------------------------------------
-- Runs
-----------------------------------------------------------------------------------------

theorem compileOutcome_of_ok (verbose : Bool) {given : Except Failure String}
    (ok : given.bind (compileDocument config · kind) = .ok compiled)
    : let outcome := compileOutcome config verbose kind given
      outcome.exitCode = 0 ∧ outcome.output = statementOutput compiled := by
  simp [compileOutcome, ok]

theorem compileOutcome_of_error (verbose : Bool) {given : Except Failure String}
    {failure : Failure} (failed : given.bind (compileDocument config · kind) = .error failure)
    : let outcome := compileOutcome config verbose kind given
      outcome.exitCode = 1 ∧ outcome.output = "" := by
  simp [compileOutcome, failed, Outcome.ofFailure]

/-- The configuration is read first, and the document in the world that this leaves. -/
theorem run_compile {σ : Type} (source : Source (StateM σ)) {invocation : Invocation}
    {file : String} (isCompile : invocation.command = .compile file kind) (world : σ)
    : let reading := (source.readConfig invocation).run world
      let given := ((source.readDocument file).run reading.2).1
      ((run source invocation).run world).1
      = match reading.1 with
        | .error failure => .ofFailure [] failure
        | .ok config => compileOutcome config invocation.verbose kind given := by
  intro reading given
  rw [run, StateT.run_bind]
  change ((match reading.1 with
    | .error failure => pure (.ofFailure [] failure)
    | .ok config => _ : StateM σ Outcome).run reading.2).1 = _
  cases reading.1 with
  | error failure => rfl
  | ok config =>
      rw [isCompile]
      rfl

/-- Compiling a document writes all or nothing, whatever the files and the input hold. If every step
succeeds, the statement is written as it was compiled for the query of the document, and behind
it one object with a member for each binding, in order, under the placeholders of the configured
prefix from number one on. If a step fails, from reading the configuration to compiling, the
output stays empty and the exit code is one.
-/
theorem run_compile_output {σ : Type} (source : Source (StateM σ)) {invocation : Invocation}
    {file : String} (isCompile : invocation.command = .compile file kind) (world : σ)
    : let reading := (source.readConfig invocation).run world
      let given := ((source.readDocument file).run reading.2).1
      let outcome := ((run source invocation).run world).1
      (∀ config text compiled after,
        reading.1 = .ok config
        → given = .ok text
        → Compiles config text kind compiled after
        → let members :=
            after.bindings.map fun binding =>
              (binding.placeholder, Json.ofSqlValue binding.value)
          outcome.exitCode = 0
          ∧ outcome.output = compiled.sql ++ "\n" ++ (Json.object members).pretty 0 ++ "\n"
          ∧ OrderedMap.keys members
            = (List.range' 1 after.bindings.length).map fun number =>
                ":" ++ config.placeholderPrefix ++ toString number)
      ∧ ((¬ ∃ config text compiled after,
            reading.1 = .ok config
            ∧ given = .ok text
            ∧ Compiles config text kind compiled after)
          → outcome.exitCode = 1 ∧ outcome.output = "") := by
  intro reading given outcome
  have outcome_eq
      : outcome
        = match reading.1 with
          | .error failure => .ofFailure [] failure
          | .ok config => compileOutcome config invocation.verbose kind given :=
    run_compile source isCompile world
  constructor
  · intro config text compiled after configured isText compiles members
    obtain ⟨written, keys⟩ := compiles.statementOutput_eq
    have ok : given.bind (compileDocument config · kind) = .ok compiled := by
      rw [isText]
      exact compileDocument_eq_ok_iff.mpr ⟨after, compiles⟩
    rw [outcome_eq, configured]
    obtain ⟨exitCode, output⟩ := compileOutcome_of_ok invocation.verbose ok
    exact ⟨exitCode, output.trans written, keys⟩
  · intro failed
    rw [outcome_eq]
    cases configured : reading.1 with
    | error failure => exact ⟨rfl, rfl⟩
    | ok config =>
        cases steps : given.bind (compileDocument config · kind) with
        | error failure => exact compileOutcome_of_error invocation.verbose steps
        | ok compiled =>
            obtain ⟨text, isText, ok⟩ := bind_eq_ok_iff.mp steps
            obtain ⟨after, compiles⟩ := compileDocument_eq_ok_iff.mp ok
            exact absurd ⟨config, text, compiled, after, configured, isText, compiles⟩ failed

/-- The dialect of the invocation replaces the default one, and a text with a quote and a
placeholder in it is one member of the object. A list in the place of a value, behind a value that
would have been bound, leaves the output empty.
-/
theorem run_compile_output_update
    : let source := (FileTree.working []).source
      let invocation : Invocation :=
        { dialect := some "MySQL"
          config := none
          verbose := false
          command := .compile "-" .update }
      let text := "\x7b\"table\":\"t\",\"values\":\x7b\"a\":\"\\\":db_prep_2\",\"b\":7\x7d\x7d"
      let faultyText := "\x7b\"table\":\"t\",\"values\":\x7b\"a\":\"\",\"b\":[7]\x7d\x7d"
      invocation.command = .compile "-" .update
      ∧ ((run source invocation).run text).1.exitCode = 0
      ∧ ((run source invocation).run text).1.output
        = "UPDATE \x60t\x60 SET \x60a\x60 = :db_prep_1, \x60b\x60 = :db_prep_2\n"
          ++ "\x7b\n  \":db_prep_1\": \"\\\":db_prep_2\",\n  \":db_prep_2\": 7\n\x7d\n"
      ∧ ((run source invocation).run faultyText).1.exitCode = 1
      ∧ ((run source invocation).run faultyText).1.output = "" := by
  intro source invocation text faultyText
  let config : Config := { dialect := .mysql }
  let compiled : Compiled :=
    { kind := .update
      dialect := .mysql
      sql := "UPDATE \x60t\x60 SET \x60a\x60 = :db_prep_1, \x60b\x60 = :db_prep_2"
      bound := [⟨":db_prep_1", .text "\":db_prep_2"⟩, ⟨":db_prep_2", .int 7⟩] }
  have isConfig : configOf none (some "MySQL") = .ok config := by decide +kernel
  have read (input : String)
      : let reading := (source.readConfig invocation).run input
        reading.1 = .ok config ∧ ((source.readDocument "-").run reading.2).1 = .ok input :=
    ⟨isConfig, rfl⟩
  have compiles : compileDocument config text .update = .ok compiled := by
    decide +kernel
  have faulty
      : compileDocument config faultyText .update
        = .error (.document (.value "b" .nestedList)) := by
    decide +kernel
  obtain ⟨after, steps⟩ := compileDocument_eq_ok_iff.mp compiles
  obtain ⟨succeeds, -⟩ := run_compile_output source (rfl : invocation.command = _) text
  obtain ⟨-, fails⟩ := run_compile_output source (rfl : invocation.command = _) faultyText
  obtain ⟨configured, given⟩ := read text
  obtain ⟨exitCode, output, -⟩ := succeeds config _ compiled after configured given steps
  obtain ⟨readsConfig, readsFaulty⟩ := read faultyText
  obtain ⟨failed, nothing⟩ := fails (not_compiles_of_error readsConfig readsFaulty faulty)
  refine ⟨rfl, exitCode, output.trans ?_, failed, nothing⟩
  rw [← steps.bound_eq]
  decide +kernel

end CommandLine

end SqlCompiler
