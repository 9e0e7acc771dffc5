import SqlCompiler.Proofs.Statement.Relabelling

/-! The values that a statement binds never reach its text: queries that differ in them alone
are compiled to one text with one list of placeholders, or fail for one reason.
-/

namespace SqlCompiler

/-- Forgets every value to bind, whatever its variant, and keeps the identifiers. -/
def Relabelling.payloads : Relabelling where
  rename := id
  rebind _ := .null

/-- The query without the values it binds now and those its binder holds. -/
def Query.withoutPayloads (query : Query) : Query :=
  { Relabelling.payloads.query query with binder := {} }

/-- The text and the placeholders of a statement, without the values that are bound. -/
def Compiled.withoutPayloads (compiled : Compiled) : String × List String :=
  (compiled.sql, compiled.bound.map (·.placeholder))

/-- A template is rendered alike whatever its slots are to hold, by induction on the pieces. -/
theorem Template.render_payloads (quoteChar : Char) (placeholderPrefix : String) (number : Nat)
    (template : Template)
    : (Relabelling.payloads.template template).render quoteChar placeholderPrefix number
      = template.render quoteChar placeholderPrefix number := by
  induction template generalizing number with
  | nil => rfl
  | cons piece rest ih =>
      cases piece with
      | text sql => exact congrArg (sql ++ ·) (ih number)
      | name identifier => exact congrArg (Identifier.quote quoteChar identifier ++ ·) (ih number)
      | slot column value =>
          exact congrArg (Binder.placeholder placeholderPrefix number ++ ·) (ih (number + 1))

namespace Compiler

variable {compiler : Compiler} {kind : StatementKind} {left right : Query}

/-- Queries that differ in payloads alone have templates that do, or none for one reason. -/
theorem template_payloads (same : left.withoutPayloads = right.withoutPayloads)
    : (compiler.template kind left).map Relabelling.payloads.template
      = (compiler.template kind right).map Relabelling.payloads.template := by
  have erased (query : Query)
      : compiler.template kind query.withoutPayloads
        = (compiler.template kind query).map Relabelling.payloads.template := by
    rw [Query.withoutPayloads, template_withBinder, Relabelling.template_query]
  rw [← erased left, ← erased right, same]

/-- What is left of a statement without its payloads is determined by the template without
its payloads, and by the prefix and the counter of the binder.
-/
theorem compile_withoutPayloads (compiler : Compiler) (kind : StatementKind) (query : Query)
    : (compiler.compile kind query).1.map Compiled.withoutPayloads
      = ((compiler.template kind query).map Relabelling.payloads.template).map fun template =>
          (template.render compiler.quoteChar query.binder.placeholderPrefix
              query.binder.counter,
            (List.range' query.binder.counter template.slotValues.length).map
              (Binder.placeholder query.binder.placeholderPrefix)) := by
  rw [compile_eq]
  cases compiler.template kind query with
  | error error => rfl
  | ok template =>
      simp only [Except.map, Compiled.withoutPayloads, Template.render_payloads,
        Relabelling.slotValues_template, List.length_map, Binder.map_placeholder_numbered]

/-- Compiling two queries that differ only in the values they bind, with binders that agree in
prefix and number of bindings, gives one error, or one text with one list of placeholders;
either way the binders agree in their placeholders again. The values may be of any variant,
and binders are well numbered from the time they are made.
-/
theorem compile_payloads {dialect : Dialect}
    (same : left.withoutPayloads = right.withoutPayloads)
    (numberedLeft : left.binder.WellNumbered) (numberedRight : right.binder.WellNumbered)
    (samePrefix : left.binder.placeholderPrefix = right.binder.placeholderPrefix)
    (sameSize : left.binder.size = right.binder.size)
    : let compile (query : Query) := (forDialect dialect).compile kind query
      (compile left).1.map Compiled.withoutPayloads
        = (compile right).1.map Compiled.withoutPayloads
      ∧ (compile left).2.binder.bindings.map (·.placeholder)
        = (compile right).2.binder.bindings.map (·.placeholder) := by
  intro compile
  have sameCounter : left.binder.counter = right.binder.counter := by
    rw [numberedLeft.counter, numberedRight.counter, sameSize]
  have outcomes
      : (compile left).1.map Compiled.withoutPayloads
        = (compile right).1.map Compiled.withoutPayloads := by
    simp only [compile]
    rw [compile_withoutPayloads, compile_withoutPayloads, template_payloads same, samePrefix,
      sameCounter]
  have before
      : left.binder.bindings.map (·.placeholder)
        = right.binder.bindings.map (·.placeholder) := by
    rw [numberedLeft.placeholders, numberedRight.placeholders, samePrefix, sameSize]
  -- the placeholders that are added are part of what is compared
  have added (outcome : Except CompileError Compiled)
      : (boundBy outcome).map (·.placeholder)
        = match outcome.map Compiled.withoutPayloads with
          | .ok (_, placeholders) => placeholders
          | .error _ => [] := by
    cases outcome <;> rfl
  refine ⟨outcomes, ?_⟩
  simp only [compile] at outcomes ⊢
  rw [compile_bindings, compile_bindings, List.map_append, List.map_append, before, added,
    added, outcomes]

/-- A text that looks like SQL and an absent value trade places with other payloads, in the
binder too, and the text of the statement is the same.
-/
theorem compile_payloads_hostile
    : let query (earlier assigned listed low : SqlValue) : Query :=
        { table := "t"
          values := [("a", .bind assigned), ("b", .raw "NOW()")]
          criteria :=
            ⟨[.predicate ⟨"c", .isIn [.bind listed, .bind listed], .and⟩,
              .predicate ⟨"d", .between (.bind low) (.raw "9"), .or⟩]⟩
          binder := (Binder.prepareAll {} [earlier]).2 }
      let left := query .null (.text "1'; DROP TABLE t --") .null (.bool true)
      let right := query (.text ":db_prep_2") .null (.blob [39]) .null
      let compile (query : Query) := (forDialect .mysql).compile .update query
      left.withoutPayloads = right.withoutPayloads
      ∧ left.binder.WellNumbered
      ∧ right.binder.WellNumbered
      ∧ left.binder.placeholderPrefix = right.binder.placeholderPrefix
      ∧ left.binder.size = right.binder.size
      ∧ (compile left).1.map Compiled.withoutPayloads
        = (compile right).1.map Compiled.withoutPayloads
      ∧ (compile left).1.map Compiled.withoutPayloads
        = .ok
            ("UPDATE \x60t\x60 SET \x60a\x60 = :db_prep_2, \x60b\x60 = NOW()"
              ++ " WHERE \x60c\x60 IN ( :db_prep_3, :db_prep_4 )"
              ++ " OR \x60d\x60 BETWEEN :db_prep_5 AND 9",
            [":db_prep_2", ":db_prep_3", ":db_prep_4", ":db_prep_5"]) := by
  intro query left right compile
  have numbered (value : SqlValue) : (Binder.prepareAll {} [value]).2.WellNumbered :=
    Binder.WellNumbered.prepareAll (.empty (by decide)) [value]
  have same : left.withoutPayloads = right.withoutPayloads := rfl
  obtain ⟨outcomes, _⟩ :=
    @compile_payloads .update left right .mysql same (numbered _) (numbered _) rfl rfl
  exact ⟨same, numbered _, numbered _, rfl, rfl, outcomes, by decide +kernel⟩

end Compiler

end SqlCompiler
