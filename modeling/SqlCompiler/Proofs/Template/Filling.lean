import SqlCompiler.Compiler
import SqlCompiler.Proofs.Binder.Numbering

/-! A filled template is its pieces one after the other, with consecutive placeholders in the
slots; the binder gets the values of the slots and nothing else. Compiling a statement and
building criteria are fillings.
-/

namespace SqlCompiler

namespace Template

/-- The text of a template whose slots get the placeholders from `number` on. -/
def render (quoteChar : Char) (placeholderPrefix : String) : (number : Nat) → Template → String
  | _, [] => ""
  | number, .text sql :: rest => sql ++ render quoteChar placeholderPrefix number rest
  | number, .name identifier :: rest =>
      Identifier.quote quoteChar identifier
        ++ render quoteChar placeholderPrefix number rest
  | number, .slot _ _ :: rest =>
      Binder.placeholder placeholderPrefix number
        ++ render quoteChar placeholderPrefix (number + 1) rest

@[simp]
theorem slotValues_nil : slotValues [] = [] := rfl

@[simp]
theorem slotValues_text (sql : String) (rest : Template)
    : slotValues (.text sql :: rest) = slotValues rest :=
  rfl

@[simp]
theorem slotValues_name (identifier : String) (rest : Template)
    : slotValues (.name identifier :: rest) = slotValues rest :=
  rfl

@[simp]
theorem slotValues_slot (column : String) (value : SqlValue) (rest : Template)
    : slotValues (.slot column value :: rest) = value :: slotValues rest :=
  rfl

/-- Filling writes the rendered text and binds the values of the slots, by induction on the
pieces.
-/
theorem fill_eq (quoteChar : Char) (template : Template) (binder : Binder)
    : template.fill quoteChar binder
      = (template.render quoteChar binder.placeholderPrefix binder.counter,
          (binder.prepareAll template.slotValues).2) := by
  induction template generalizing binder with
  | nil => rfl
  | cons piece rest ih =>
      cases piece with
      | text sql => simp only [fill, ih, render, slotValues_text]
      | name identifier => simp only [fill, ih, render, slotValues_name]
      | slot column value =>
          simp only [fill, ih, render, slotValues_slot, Binder.prepareAll]
          rfl

end Template

-----------------------------------------------------------------------------------------
-- Translating lists
-----------------------------------------------------------------------------------------

/-- A list is translated member by member, by induction on the list. -/
theorem mapM_eq_ok_iff {α β ε : Type} {f : α → Except ε β} {as : List α} {bs : List β}
    : as.mapM f = .ok bs ↔ List.Forall₂ (fun a b => f a = .ok b) as bs := by
  induction as generalizing bs with
  | nil => cases bs <;> simp [pure, Except.pure]
  | cons a as ih =>
      rw [List.mapM_cons, List.forall₂_cons_left_iff]
      simp only [← ih]
      rcases f a with error | b
      · simp [bind, Except.bind]
      · rcases as.mapM f with error | tail
        · simp [bind, Except.bind]
        · simp [bind, Except.bind, pure, Except.pure, eq_comm]

theorem forall₂_mem_right {α β : Type} {related : α → β → Prop} {as : List α} {bs : List β}
    (h : List.Forall₂ related as bs) {b : β} (member : b ∈ bs)
    : ∃ a ∈ as, related a b := by
  induction h with
  | nil => cases member
  | @cons first image as bs head _ ih =>
      rcases List.mem_cons.mp member with rfl | later
      · exact ⟨first, List.mem_cons_self, head⟩
      · obtain ⟨a, listed, tail⟩ := ih later
        exact ⟨a, List.mem_cons_of_mem first listed, tail⟩

-----------------------------------------------------------------------------------------
-- Clauses that may fail
-----------------------------------------------------------------------------------------

namespace Clause

variable {dialect : Dialect} {query : Query} {part : Template}

/-- A row lock is never more than its two words. -/
theorem lock_ok (ok : template dialect query .lock = .ok (some part))
    : part = .ofText "FOR UPDATE" := by
  simp only [template] at ok
  split at ok
  · cases ok
  split at ok
  · exact (Option.some.inj (Except.ok.inj ok)).symm
  · cases ok

/-- Without column values there is nothing to insert into, and nothing to set. -/
theorem template_insertColumns
    : template dialect query .insertColumns
      = if query.values.isEmpty then .error (.missingValues .insert)
        else .ok ((Template.ofNames (OrderedMap.keys query.values)).enclosed "( ") := by
  rw [template, requireValues]
  split <;> rfl

theorem template_updateSet
    : template dialect query .updateSet
      = if query.values.isEmpty then .error (.missingValues .update)
        else .ok (query.assignmentList.headed "SET") := by
  rw [template, requireValues]
  split <;> rfl

theorem insertColumns_ok {part : Option Template}
    (ok : template dialect query .insertColumns = .ok part)
    : (Template.ofNames (OrderedMap.keys query.values)).enclosed "( " = part := by
  rw [template_insertColumns] at ok
  split at ok
  · cases ok
  · exact Except.ok.inj ok

theorem updateSet_ok {part : Option Template}
    (ok : template dialect query .updateSet = .ok part)
    : query.assignmentList.headed "SET" = part := by
  rw [template_updateSet] at ok
  split at ok
  · cases ok
  · exact Except.ok.inj ok

end Clause

-----------------------------------------------------------------------------------------
-- Statements and criteria
-----------------------------------------------------------------------------------------

/-- The bindings of a statement; a failure has none. -/
def boundBy : Except CompileError Compiled → List Binding
  | .ok compiled => compiled.bound
  | .error _ => []

namespace Compiler

/-- The binder has no part in the template of a query. -/
theorem template_withBinder (compiler : Compiler) (kind : StatementKind) (query : Query)
    (binder : Binder)
    : compiler.template kind { query with binder } = compiler.template kind query := by
  have clauses
      : Clause.template compiler.dialect { query with binder }
        = Clause.template compiler.dialect query := by
    funext clause
    cases clause <;> rfl
  rw [template, template, clauses]

/-- The template of a statement is its keyword and the parts that its clauses yield, each
clause in its turn.
-/
theorem template_eq_ok_iff {compiler : Compiler} {kind : StatementKind} {query : Query}
    {template : Template}
    : compiler.template kind query = .ok template
      ↔ ∃ parts,
          List.Forall₂ (fun clause part => clause.template compiler.dialect query = .ok part)
            (compiler.plan.clauses kind) parts
          ∧ template = .join " " (.ofText kind.keyword :: parts.filterMap id) := by
  rw [Compiler.template]
  simp only [← mapM_eq_ok_iff]
  cases (compiler.plan.clauses kind).mapM (Clause.template compiler.dialect query) with
  | error error => simp [bind, Except.bind]
  | ok parts => simp [bind, Except.bind, pure, Except.pure, eq_comm]

/-- Every part of a statement comes from one of its clauses. -/
theorem template_ok {compiler : Compiler} {kind : StatementKind} {query : Query}
    {template : Template} (ok : compiler.template kind query = .ok template)
    : ∃ parts,
        template = .join " " (.ofText kind.keyword :: parts)
        ∧ ∀ part ∈ parts,
            ∃ clause ∈ compiler.plan.clauses kind,
              clause.template compiler.dialect query = .ok (some part) := by
  obtain ⟨parts, yields, rfl⟩ := template_eq_ok_iff.mp ok
  refine ⟨parts.filterMap id, rfl, ?_⟩
  intro part member
  obtain ⟨_, listed, rfl⟩ := List.mem_filterMap.mp member
  exact forall₂_mem_right yields listed

/-- Compiling fails as the template does, and otherwise renders the template, binds its slots
and leaves all else in the query.
-/
theorem compile_eq (compiler : Compiler) (kind : StatementKind) (query : Query)
    : compiler.compile kind query
      = match compiler.template kind query with
        | .error error => (.error error, query)
        | .ok template =>
            (.ok
              { kind
                dialect := compiler.dialect
                sql :=
                  template.render compiler.quoteChar query.binder.placeholderPrefix
                    query.binder.counter
                bound :=
                  Binder.numbered query.binder.placeholderPrefix query.binder.counter
                    template.slotValues },
              { query with binder := (query.binder.prepareAll template.slotValues).2 }) := by
  cases compiled : compiler.template kind query with
  | error error => simp only [compile, compiled]
  | ok template =>
      simp only [compile, compiled, Template.fill_eq, Binder.prepareAll_eq, Binder.size,
        List.drop_left]

/-- A compiled statement is the rendering of a template. -/
theorem compile_ok {compiler : Compiler} {kind : StatementKind} {query after : Query}
    {compiled : Compiled} (ok : compiler.compile kind query = (.ok compiled, after))
    : ∃ template,
        compiler.template kind query = .ok template
        ∧ compiled.sql
          = template.render compiler.quoteChar query.binder.placeholderPrefix
              query.binder.counter
        ∧ compiled.bound
          = Binder.numbered query.binder.placeholderPrefix query.binder.counter
              template.slotValues
        ∧ after
          = { query with
              binder := (query.binder.prepareAll template.slotValues).2 } := by
  rw [compile_eq] at ok
  cases templateOk : compiler.template kind query with
  | error error => simp [templateOk] at ok
  | ok template =>
      simp only [templateOk, Prod.mk.injEq, Except.ok.injEq] at ok
      obtain ⟨rfl, rfl⟩ := ok
      exact ⟨template, rfl, rfl, rfl, rfl⟩

/-- Compiling adds the bindings of the statement to the binder, and none if it fails. -/
theorem compile_bindings (compiler : Compiler) (kind : StatementKind) (query : Query)
    : (compiler.compile kind query).2.binder.bindings
      = query.binder.bindings ++ boundBy (compiler.compile kind query).1 := by
  rw [compile_eq]
  cases compiler.template kind query with
  | error error => exact (List.append_nil _).symm
  | ok template => simp only [Binder.prepareAll_eq, boundBy]

/-- Building criteria with a binder renders their template and binds its slots. -/
theorem buildCriteria_some (compiler : Compiler) (criteria : Criteria) (binder : Binder)
    : compiler.buildCriteria criteria (some binder)
      = .ok
          (criteria.template.render compiler.quoteChar binder.placeholderPrefix
            binder.counter,
          some (binder.prepareAll criteria.template.slotValues).2) := by
  simp only [buildCriteria, Template.fill_eq]

end Compiler

end SqlCompiler
