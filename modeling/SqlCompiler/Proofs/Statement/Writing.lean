import SqlCompiler.Proofs.Template.Filling

/-! A statement written clause by clause, with a working copy of the binder that every clause
takes over from the one before it. A refused clause ends the writing; what the clauses before it
have bound is then in the working copy alone, and the query never gets it.
-/

namespace SqlCompiler

-----------------------------------------------------------------------------------------
-- Filling templates one after the other
-----------------------------------------------------------------------------------------

namespace Template

/-- Fills templates with one binder, from left to right. -/
def fillAll (quoteChar : Char) : List Template → Binder → List String × Binder
  | [], binder => ([], binder)
  | template :: rest, binder =>
      let (sql, next) := template.fill quoteChar binder
      let (tail, last) := fillAll quoteChar rest next
      (sql :: tail, last)

/-- What stands behind a template is filled with the binder that the template leaves, by
induction on the pieces.
-/
theorem fill_append (quoteChar : Char) (left right : Template) (binder : Binder)
    : (left ++ right).fill quoteChar binder
      = ((left.fill quoteChar binder).1
            ++ (right.fill quoteChar (left.fill quoteChar binder).2).1,
          (right.fill quoteChar (left.fill quoteChar binder).2).2) := by
  induction left generalizing binder with
  | nil => simp [fill]
  | cons piece rest ih =>
      cases piece with
      | text sql => simp only [List.cons_append, fill, ih, String.append_assoc]
      | name identifier => simp only [List.cons_append, fill, ih, String.append_assoc]
      | slot column value => simp only [List.cons_append, fill, ih, String.append_assoc]

/-- Templates that bind nothing are filled one by one, by induction on the items. -/
theorem fillAll_map {α : Type} {template : α → Template} {text : α → String}
    {quoteChar : Char}
    (fills : ∀ item binder, (template item).fill quoteChar binder = (text item, binder))
    (items : List α) (binder : Binder)
    : fillAll quoteChar (items.map template) binder = (items.map text, binder) := by
  induction items with
  | nil => rfl
  | cons item items ih => simp only [List.map_cons, fillAll, fills, ih]

/-- Joined templates are filled one after the other, by induction on the templates. -/
theorem fill_join (quoteChar : Char) (separator : String) (templates : List Template)
    (binder : Binder)
    : (join separator templates).fill quoteChar binder
      = (String.intercalate separator (fillAll quoteChar templates binder).1,
          (fillAll quoteChar templates binder).2) := by
  induction templates generalizing binder with
  | nil => rfl
  | cons first rest ih =>
      cases rest with
      | nil => simp [join, fillAll]
      | cons next rest =>
          have parts
              : join separator (first :: next :: rest)
                = first ++ (.text separator :: join separator (next :: rest)) := by
            simp [join]
          rw [parts, fill_append, fill, ih]
          simp [fillAll, String.append_assoc]

end Template

-----------------------------------------------------------------------------------------
-- Writing clauses one after the other
-----------------------------------------------------------------------------------------

namespace Compiler

/-- Writes clauses up to the first that is refused. The binder that comes back holds whatever
has been bound by then.
-/
def writeClauses (compiler : Compiler) (query : Query)
    : List Clause → Binder → Except CompileError (List String) × Binder
  | [], binder => (.ok [], binder)
  | clause :: rest, binder =>
      match clause.template compiler.dialect query with
      | .error error => (.error error, binder)
      | .ok none => compiler.writeClauses query rest binder
      | .ok (some part) =>
          let (sql, next) := part.fill compiler.quoteChar binder
          let (parts, last) := compiler.writeClauses query rest next
          (parts.map (sql :: ·), last)

/-- Writing clauses fails as translating them does, and otherwise fills what they yield, by
induction on the clauses.
-/
theorem writeClauses_eq (compiler : Compiler) (query : Query) (clauses : List Clause)
    (binder : Binder)
    : match clauses.mapM (Clause.template compiler.dialect query) with
      | .error error => (compiler.writeClauses query clauses binder).1 = .error error
      | .ok parts =>
          let (texts, last) :=
            Template.fillAll compiler.quoteChar (parts.filterMap id) binder
          compiler.writeClauses query clauses binder = (.ok texts, last) := by
  induction clauses generalizing binder with
  | nil => rfl
  | cons clause rest ih =>
      rw [List.mapM_cons]
      cases written : clause.template compiler.dialect query with
      | error error => simp [bind, Except.bind, writeClauses, written]
      | ok part =>
          cases part with
          | none =>
              have tail := ih binder
              cases others : rest.mapM (Clause.template compiler.dialect query) with
              | error error => simpa [bind, Except.bind, writeClauses, written, others] using tail
              | ok parts =>
                  simpa [bind, Except.bind, pure, Except.pure, writeClauses, written, others]
                    using tail
          | some part =>
              have tail := ih (part.fill compiler.quoteChar binder).2
              cases others : rest.mapM (Clause.template compiler.dialect query) with
              | error error =>
                  simp only [others] at tail
                  simp [bind, Except.bind, writeClauses, written, tail, Except.map]
              | ok parts =>
                  simp only [others] at tail
                  simp [bind, Except.bind, pure, Except.pure, writeClauses, written, tail,
                    Except.map, Template.fillAll]

/-- Compiling is writing the clauses of the plan behind the keyword. The query takes the
working copy over at the very end; if a clause is refused, the query stays as it was.
-/
theorem compile_eq_writeClauses (compiler : Compiler) (kind : StatementKind) (query : Query)
    : compiler.compile kind query
      = match compiler.writeClauses query (compiler.plan.clauses kind) query.binder with
        | (.error error, _) => (.error error, query)
        | (.ok texts, binder) =>
            (.ok
              { kind
                dialect := compiler.dialect
                sql := String.intercalate " " (kind.keyword :: texts)
                bound := binder.bindings.drop query.binder.size },
              { query with binder }) := by
  have written :=
    compiler.writeClauses_eq query (compiler.plan.clauses kind) query.binder
  cases clauses
    : (compiler.plan.clauses kind).mapM (Clause.template compiler.dialect query) with
  | error error =>
      simp only [clauses] at written
      simp only [compile, template, clauses, bind, Except.bind]
      generalize compiler.writeClauses query (compiler.plan.clauses kind) query.binder
        = outcome at written ⊢
      obtain ⟨result, binder⟩ := outcome
      cases written
      rfl
  | ok parts =>
      simp only [clauses] at written
      simp only [compile, template, clauses, bind, Except.bind, pure, Except.pure, written,
        Template.fill_join]
      simp [Template.fillAll, Template.ofText, Template.fill]

end Compiler

end SqlCompiler
