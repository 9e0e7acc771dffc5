import SqlCompiler.Proofs.Binder.Run

/-! A statement is a fixed outline: literal pieces with the placeholders of its values in
between. The query decides the outline without its binder, which only numbers the placeholders.
-/

namespace SqlCompiler

/-- Literal pieces, and the values whose placeholders stand between them. -/
structure Outline where
  pieces : List String
  values : List SqlValue
  length_pieces : pieces.length = values.length + 1
deriving DecidableEq

namespace Outline

/-- Pieces with a token behind each of them, as long as there are tokens. -/
def interleave : List String → List String → String
  | [], _ => ""
  | piece :: pieces, [] => piece ++ interleave pieces []
  | piece :: pieces, token :: tokens => piece ++ token ++ interleave pieces tokens

/-- The placeholders of an outline, numbered behind those of a binder. -/
def tokens (outline : Outline) (binder : Binder) : List String :=
  (List.range' (binder.size + 1) outline.values.length).map fun number =>
    ":" ++ binder.placeholderPrefix ++ toString number

def text (outline : Outline) (binder : Binder) : String :=
  interleave outline.pieces (outline.tokens binder)

def bindings (outline : Outline) (binder : Binder) : List Binding :=
  (outline.tokens binder).zipWith Binding.mk outline.values

theorem interleave_append (start piece : String) (pieces tokens : List String)
    : interleave ((start ++ piece) :: pieces) tokens
      = start ++ interleave (piece :: pieces) tokens := by
  cases tokens <;> simp [interleave, String.append_assoc]

end Outline

-----------------------------------------------------------------------------------------
-- The outline of a template
-----------------------------------------------------------------------------------------

namespace Template

/-- The text before the first slot. -/
def opening (quoteChar : Char) : Template → String
  | [] => ""
  | .text sql :: rest => sql ++ opening quoteChar rest
  | .name identifier :: rest => Identifier.quote quoteChar identifier ++ opening quoteChar rest
  | .slot _ _ :: _ => ""

/-- The texts behind the slots, each up to the next slot. -/
def followers (quoteChar : Char) : Template → List String
  | [] => []
  | .text _ :: rest => followers quoteChar rest
  | .name _ :: rest => followers quoteChar rest
  | .slot _ _ :: rest => opening quoteChar rest :: followers quoteChar rest

theorem length_followers (quoteChar : Char) (template : Template)
    : (template.followers quoteChar).length = template.slotValues.length := by
  induction template with
  | nil => rfl
  | cons piece rest ih => cases piece <;> simp [followers, ih]

/-- The outline of a template: the texts around its slots, and their values. -/
def outline (quoteChar : Char) (template : Template) : Outline where
  pieces := template.opening quoteChar :: template.followers quoteChar
  values := template.slotValues
  length_pieces := by rw [List.length_cons, length_followers]

/-- A rendered template is the texts around its slots with consecutive placeholders in between,
by induction on the pieces.
-/
theorem render_eq_interleave (quoteChar : Char) (placeholderPrefix : String) (number : Nat)
    (template : Template)
    : template.render quoteChar placeholderPrefix number
      = Outline.interleave (template.opening quoteChar :: template.followers quoteChar)
          ((List.range' number template.slotValues.length).map
            (Binder.placeholder placeholderPrefix)) := by
  induction template generalizing number with
  | nil => rfl
  | cons piece rest ih =>
      cases piece with
      | text sql => rw [render, ih, opening, followers, Outline.interleave_append, slotValues_text]
      | name identifier =>
          rw [render, ih, opening, followers, Outline.interleave_append, slotValues_name]
      | slot column value =>
          rw [render, ih, opening, followers, slotValues_slot, List.length_cons,
            List.range'_succ, List.map_cons, Outline.interleave, String.empty_append]

end Template

-----------------------------------------------------------------------------------------
-- The outline of a statement
-----------------------------------------------------------------------------------------

theorem Outline.bindings_eq_numbered (outline : Outline) (binder : Binder)
    : outline.bindings binder
      = Binder.numbered binder.placeholderPrefix (binder.size + 1) outline.values := by
  rw [bindings, tokens, ← Binder.zipWith_numbered, Binder.map_placeholder_numbered]
  rfl

namespace Compiler

/-- The outline of a statement, or why there is none. -/
def outline (compiler : Compiler) (kind : StatementKind) (query : Query)
    : Except CompileError Outline :=
  (compiler.template kind query).map (Template.outline compiler.quoteChar)

theorem outline_withBinder (compiler : Compiler) (kind : StatementKind) (query : Query)
    (binder : Binder)
    : compiler.outline kind { query with binder } = compiler.outline kind query := by
  rw [outline, template_withBinder, outline]

/-- Compiling with a well-numbered binder puts the next placeholders into the outline. -/
theorem compile_eq_outline (compiler : Compiler) (kind : StatementKind) {query : Query}
    (numbered : query.binder.WellNumbered)
    : compiler.compile kind query
      = match compiler.outline kind query with
        | .error error => (.error error, query)
        | .ok outline =>
            (.ok
              { kind
                dialect := compiler.dialect
                sql := outline.text query.binder
                bound := outline.bindings query.binder },
              { query with
                binder :=
                  { query.binder with
                    counter := query.binder.counter + outline.values.length
                    bindings :=
                      query.binder.bindings ++ outline.bindings query.binder } }) := by
  rw [compile_eq, outline]
  cases compiler.template kind query with
  | error error => rfl
  | ok template =>
      simp only [Except.map, Outline.bindings_eq_numbered, Binder.prepareAll_eq,
        Template.render_eq_interleave, numbered.counter]
      rfl

theorem compile_wellNumbered (compiler : Compiler) (kind : StatementKind) {query : Query}
    (numbered : query.binder.WellNumbered)
    : (compiler.compile kind query).2.binder.WellNumbered := by
  rw [compile_eq]
  cases compiler.template kind query with
  | error error => exact numbered
  | ok template => exact numbered.prepareAll template.slotValues

/-- Behind operations that leave the query alone, a reset binder compiles like a new one. -/
theorem compile_reset (compiler : Compiler) (kind : StatementKind) (query : Query)
    {operations : List Operation}
    (keeps : ∀ operation ∈ operations, operation.editsQuery = false) {fresh : Binder}
    (created : Binder.withPrefix query.binder.placeholderPrefix = .ok fresh)
    : let later := Operation.run query operations
      compiler.compile kind { later with binder := later.binder.reset }
      = compiler.compile kind { query with binder := fresh } := by
  intro later
  obtain ⟨_, rfl⟩ := Binder.withPrefix_eq_ok_iff.mp created
  -- Of all that was done before, only the prefix of the binder outlives the reset.
  obtain ⟨binder, ran⟩ := Operation.run_query query keeps
  have samePrefix := Operation.run_placeholderPrefix query operations
  simp only [later, ran] at samePrefix ⊢
  rw [Binder.reset, samePrefix]

/-- Compiling once more gives the same outline behind the bindings of the first time. -/
theorem compile_again (compiler : Compiler) (kind : StatementKind) {query : Query}
    (numbered : query.binder.WellNumbered) {outline : Outline}
    (formed : compiler.outline kind query = .ok outline)
    : let after := (compiler.compile kind query).2
      after.binder.size = query.binder.size + outline.values.length
      ∧ (compiler.compile kind after).1
        = .ok
            { kind
              dialect := compiler.dialect
              sql := outline.text after.binder
              bound := outline.bindings after.binder } := by
  intro after
  have first := compile_eq_outline compiler kind numbered
  rw [formed] at first
  have afterEq := congrArg Prod.snd first
  have again : compiler.outline kind after = .ok outline := by
    simp only [after, afterEq, outline_withBinder, formed]
  constructor
  · simp only [after, afterEq, Binder.size, List.length_append,
      Outline.bindings_eq_numbered, Binder.length_numbered]
  · rw [compile_eq_outline _ _ (compile_wellNumbered _ _ numbered), again]

/-- A statement is an outline, which the query decides without its binder: compiling puts the
placeholders behind those of the binder between its literal pieces and binds its values to them,
or fails alike with every binder. So a binder that has been reset gives what a new one gives,
whatever was compiled before; and without a reset, compiling again changes only the numbers.
-/
theorem compile_outline (dialect : Dialect) (kind : StatementKind) (query : Query)
    : let compiler := forDialect dialect
      (∀ binder, compiler.outline kind { query with binder } = compiler.outline kind query)
      ∧ (∀ binder : Binder,
          binder.WellNumbered
          → compiler.compile kind { query with binder }
            = match compiler.outline kind query with
              | .error error => (.error error, { query with binder })
              | .ok outline =>
                  (.ok
                    { kind
                      dialect
                      sql := outline.text binder
                      bound := outline.bindings binder },
                    { query with
                      binder :=
                        { binder with
                          counter := binder.counter + outline.values.length
                          bindings := binder.bindings ++ outline.bindings binder } }))
      ∧ (∀ operations,
          (∀ operation ∈ operations, operation.editsQuery = false)
          → ∀ fresh,
              Binder.withPrefix query.binder.placeholderPrefix = .ok fresh
              → let later := Operation.run query operations
                compiler.compile kind { later with binder := later.binder.reset }
                = compiler.compile kind { query with binder := fresh })
      ∧ (query.binder.WellNumbered
          → ∀ outline,
              compiler.outline kind query = .ok outline
              → let after := (compiler.compile kind query).2
                after.binder.size = query.binder.size + outline.values.length
                ∧ (compiler.compile kind after).1
                  = .ok
                      { kind
                        dialect
                        sql := outline.text after.binder
                        bound := outline.bindings after.binder }) := by
  intro compiler
  refine ⟨compiler.outline_withBinder kind query, ?_, ?_, ?_⟩
  · intro binder numbered
    rw [compile_eq_outline _ _ numbered, outline_withBinder]
    rfl
  · intro operations keeps fresh created
    exact compiler.compile_reset kind query keeps created
  · intro numbered outline formed
    exact compiler.compile_again kind numbered formed

/-- A fragment that looks like a placeholder is a part of a literal piece and stays as it is when
the statement is compiled again; the placeholders go on behind a prefix that ends in a digit.
-/
theorem compile_outline_renumbered
    : let query : Query :=
        { table := "t"
          criteria :=
            ⟨[.raw "and x = ':p12'",
              .predicate ⟨"a", .between (.bind (.int 1)) (.bind .null), .or⟩]⟩
          binder := (Binder.prepare { placeholderPrefix := "p1" } (.bool true)).2 }
      let compiler := forDialect .mysql
      let outline : Outline :=
        { pieces :=
            ["DELETE FROM \x60t\x60 WHERE x = ':p12' OR \x60a\x60 BETWEEN ", " AND ", ""]
          values := [.int 1, .null]
          length_pieces := rfl }
      query.binder.WellNumbered
      ∧ compiler.outline .delete query = .ok outline
      ∧ (compiler.compile .delete (compiler.compile .delete query).2).1
        = .ok
            { kind := .delete
              dialect := .mysql
              sql := "DELETE FROM \x60t\x60 WHERE x = ':p12' OR \x60a\x60 BETWEEN :p14 AND :p15"
              bound := [⟨":p14", .int 1⟩, ⟨":p15", .null⟩] } := by
  intro query compiler outline
  have numbered : query.binder.WellNumbered :=
    Binder.WellNumbered.prepareAll (.empty (by decide)) [.bool true]
  have formed : compiler.outline .delete query = .ok outline := by decide +kernel
  obtain ⟨_, _, _, again⟩ := compile_outline .mysql .delete query
  obtain ⟨size, recompiled⟩ := again numbered outline formed
  exact ⟨numbered, formed, recompiled.trans (by decide +kernel)⟩

end Compiler

end SqlCompiler
