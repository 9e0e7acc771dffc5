import SqlCompiler.Proofs.Statement.Insertion

/-! How `INSERT` and `UPDATE` write column values: each column once, by its quoted name, and its
value by a raw text or by a placeholder that is bound to it. Both kinds of statement can always be
compiled when there are column values.
-/

namespace SqlCompiler

-----------------------------------------------------------------------------------------
-- Values
-----------------------------------------------------------------------------------------

/-- The text writes the value: a raw value is its own text, and a bound one has a placeholder that
is bound to it.
-/
def Value.WrittenAs (bound : List Binding) : Value → String → Prop
  | .raw sql, text => text = sql
  | .bind value, text => ⟨text, value⟩ ∈ bound

/-- The values to bind of some values. -/
theorem Query.assignedValues_eq (query : Query)
    : query.assignedValues = (query.values.map (·.2)).filterMap Value.bound? := by
  rw [assignedValues, List.filterMap_map]
  rfl

namespace Template

/-- The texts of values write them if the values are bound in their order, by induction on the
values.
-/
theorem forall₂_writtenAs_tokens {bound : List Binding} (placeholderPrefix : String) (number : Nat)
    (values : List Value)
    (isBound
      : Binder.numbered placeholderPrefix number (values.filterMap Value.bound?) ⊆ bound)
    : List.Forall₂ (Value.WrittenAs bound) values (tokens placeholderPrefix number values) := by
  induction values generalizing number with
  | nil => exact .nil
  | cons value values ih =>
      cases value with
      | raw sql => exact .cons rfl (ih number isBound)
      | bind value =>
          obtain ⟨first, others⟩ := List.cons_subset.mp isBound
          exact .cons first (ih (number + 1) others)

/-- The assignment of a text to a name. -/
def assignmentText (name text : String) : String :=
  name ++ " = " ++ text

/-- Assignments are written one by one, each bound value with the next placeholder, by induction on
them.
-/
theorem fillAll_assignment (quoteChar : Char) (assigned : List (String × Value))
    (binder : Binder)
    : (fillAll quoteChar
          (assigned.map fun (column, value) =>
            .name column :: .text " = " :: ofValue column value)
          binder).1
      = List.zipWith assignmentText
          ((OrderedMap.keys assigned).map (Identifier.quote quoteChar))
          (tokens binder.placeholderPrefix binder.counter (assigned.map (·.2))) := by
  unfold OrderedMap.keys
  induction assigned generalizing binder with
  | nil => rfl
  | cons pair assigned ih =>
      obtain ⟨column, value⟩ := pair
      cases value with
      | raw sql =>
          simp only [List.map_cons, fillAll, fill, fill_ofValue, ih, tokens, List.zipWith_cons_cons,
            assignmentText, String.append_assoc]
      | bind value =>
          simp only [List.map_cons, fillAll, fill, fill_ofValue, ih, tokens, List.zipWith_cons_cons,
            assignmentText, String.append_assoc]
          rfl

end Template

namespace Query

theorem render_assignmentList (quoteChar : Char) (query : Query) (binder : Binder)
    : query.assignmentList.render quoteChar binder.placeholderPrefix binder.counter
      = String.intercalate ", "
          (List.zipWith Template.assignmentText
            ((OrderedMap.keys query.values).map (Identifier.quote quoteChar))
            (Template.tokens binder.placeholderPrefix binder.counter
              (query.values.map (·.2)))) := by
  rw [Template.render_eq_fill, assignmentList, Template.fill_join, Template.fillAll_assignment]

/-- Assignments always show their columns. -/
theorem isBlank_assignmentList {query : Query} (assigned : query.values ≠ [])
    : query.assignmentList.isBlank = false := by
  obtain ⟨⟨column, value⟩, rest, values⟩ := List.exists_cons_of_ne_nil assigned
  rw [assignmentList, values]
  cases rest <;> simp [Template.join, Template.isBlank]

end Query

-----------------------------------------------------------------------------------------
-- Statements with column values
-----------------------------------------------------------------------------------------

namespace Compiler

variable {dialect : Dialect} {query : Query} {binder last : Binder} {texts : List String}

/-- A statement that writes column values can be compiled if there are some. -/
theorem exists_compile_of_values {kind : StatementKind} (dialect : Dialect)
    (writes : kind = .insert ∨ kind = .update) (assigned : query.values ≠ [])
    : ∃ compiled after, (forDialect dialect).compile kind query = (.ok compiled, after) := by
  rcases outcome : (forDialect dialect).compile kind query with ⟨error | compiled, after⟩
  · have refused := compile_eq_error_iff.mp (congrArg Prod.fst outcome)
    rcases Query.refusal?_eq_some_iff.mp refused with ⟨select, _⟩ | ⟨_, none, _⟩
    · rcases writes with rfl | rfl <;> cases select
    · exact absurd none assigned
  · exact ⟨compiled, after, rfl⟩

/-- The bindings of a statement that writes column values hold those of the column values. -/
theorem numbered_assignedValues_subset {kind : StatementKind} {after : Query} {compiled : Compiled}
    (writes : kind = .insert ∨ kind = .update)
    (ok : (forDialect dialect).compile kind query = (.ok compiled, after))
    : Binder.numbered query.binder.placeholderPrefix query.binder.counter
        ((query.values.map (·.2)).filterMap Value.bound?) ⊆ compiled.bound := by
  obtain ⟨template, templateOk, _, bound, _⟩ := compile_ok ok
  rw [bound, slotValues_template templateOk, ← Query.assignedValues_eq]
  rcases writes with rfl | rfl
  · exact List.Subset.refl _
  · rw [Query.boundValues, Binder.numbered_append]
    exact List.subset_append_left _ _

/-- The assignments stand behind the table, and the criteria are written with the binder that they
leave.
-/
theorem writeClauses_update (assigned : query.values ≠ [])
    (written
      : (forDialect dialect).writeClauses query ((Plan.forDialect dialect).clauses .update) binder
        = (.ok texts, last))
    : let quote := Identifier.quote dialect.quoteChar
      ∃ behind,
        (forDialect dialect).writeClauses query (.criteria :: Plan.updateExtras dialect)
            (binder.prepareAll query.assignedValues).2
          = (.ok behind, last)
        ∧ texts
          = quote query.table
            :: ("SET "
              ++ String.intercalate ", "
                  (List.zipWith Template.assignmentText
                    ((OrderedMap.keys query.values).map quote)
                    (Template.tokens binder.placeholderPrefix binder.counter
                      (query.values.map (·.2)))))
            :: behind := by
  intro quote
  have yields
      : Clause.template dialect query .updateSet = .ok (query.assignmentList.headed "SET") := by
    rw [Clause.template_updateSet, if_neg (by simpa using assigned)]
  obtain ⟨_, behindTable, rfl⟩ := writeClauses_unbound rfl rfl written
  obtain ⟨part, behind, isPart, behindValues, rfl⟩ := writeClauses_cons_eq_ok_iff.mp behindTable
  obtain rfl := Except.ok.inj (yields.symm.trans isPart)
  rw [Template.partValues_headed, Query.slotValues_assignmentList] at behindValues
  have shows
      : query.assignmentList.render dialect.quoteChar binder.placeholderPrefix binder.counter
        ≠ "" := by
    rw [Ne, Template.render_eq_empty_iff, Query.isBlank_assignmentList assigned]
    exact Bool.false_ne_true
  have atTable
      : ((some (Template.ofName query.table)).map
          (Template.render dialect.quoteChar binder.placeholderPrefix binder.counter)).toList
        = [quote query.table] := by
    simp [Template.ofName, Template.render, quote]
  have atAssignments
      : ((query.assignmentList.headed "SET").map
          (Template.render dialect.quoteChar binder.placeholderPrefix binder.counter)).toList
        = ["SET "
            ++ query.assignmentList.render dialect.quoteChar binder.placeholderPrefix
                binder.counter] := by
    rw [Template.toList_render_headed, headedText, if_neg shows]
    rfl
  refine ⟨behind, behindValues, ?_⟩
  rw [atTable, ← Query.render_assignmentList]
  exact congrArg (fun shown => _ :: (shown ++ behind)) atAssignments

/-- The text of an `INSERT` of columns by their names, with a list of values if there is one. -/
def insertText (table : String) (names : List String) (values? : Option (List String))
    (behind : List String)
    : String :=
  String.intercalate " "
    ("INSERT INTO"
      :: table
      :: ("( " ++ String.intercalate ", " names ++ " )")
      :: (values?.map fun texts =>
          "VALUES ( " ++ String.intercalate ", " texts ++ " )").toList
      ++ behind)

/-- The text of an `UPDATE` that assigns texts to columns by their names. -/
def updateText (table : String) (names texts behind : List String) : String :=
  String.intercalate " "
    ("UPDATE"
      :: table
      :: ("SET "
        ++ String.intercalate ", " (List.zipWith Template.assignmentText names texts))
      :: behind)

/-- An `INSERT` lists the quoted columns and, in the same order, the texts of their values, which
are left out together if the only one is raw and empty.
-/
theorem exists_compile_insert (dialect : Dialect) (assigned : query.values ≠ [])
    : let quote := Identifier.quote dialect.quoteChar
      let values := query.values.map (·.2)
      ∃ compiled after texts behind,
        (forDialect dialect).compile .insert query = (.ok compiled, after)
        ∧ List.Forall₂ (Value.WrittenAs compiled.bound) values texts
        ∧ String.join (behind.map (" " ++ ·)) = query.returningText dialect
        ∧ compiled.sql
          = insertText (quote query.table) ((OrderedMap.keys query.values).map quote)
              (if values = [.raw ""] then none else some texts) behind := by
  intro quote values
  obtain ⟨compiled, after, ok⟩ := exists_compile_of_values dialect (.inl rfl) assigned
  obtain ⟨texts, _, written, isText, _⟩ := exists_writeClauses ok
  obtain ⟨behind, rfl, returned⟩ := writeClauses_insert assigned written
  refine ⟨compiled, after, _, behind, ok,
    Template.forall₂_writtenAs_tokens _ _ _ (numbered_assignedValues_subset (.inl rfl) ok),
    returned, isText.trans ?_⟩
  by_cases blank : values = [.raw ""]
  · rw [if_pos blank, if_pos blank]
    rfl
  · rw [if_neg blank, if_neg blank]
    rfl

/-- An `UPDATE` assigns to the quoted columns, in order, the texts of their values. -/
theorem exists_compile_update (dialect : Dialect) (assigned : query.values ≠ [])
    : let compiler := forDialect dialect
      let quote := Identifier.quote dialect.quoteChar
      ∃ compiled after texts behind last,
        compiler.compile .update query = (.ok compiled, after)
        ∧ List.Forall₂ (Value.WrittenAs compiled.bound) (query.values.map (·.2)) texts
        ∧ compiler.writeClauses query (.criteria :: Plan.updateExtras dialect)
            (query.binder.prepareAll query.assignedValues).2
          = (.ok behind, last)
        ∧ compiled.sql
          = updateText (quote query.table) ((OrderedMap.keys query.values).map quote) texts
              behind := by
  intro compiler quote
  obtain ⟨compiled, after, ok⟩ := exists_compile_of_values dialect (.inr rfl) assigned
  obtain ⟨texts, last, written, isText, _⟩ := exists_writeClauses ok
  obtain ⟨behind, behindValues, rfl⟩ := writeClauses_update assigned written
  exact ⟨compiled, after, _, behind, last, ok,
    Template.forall₂_writtenAs_tokens _ _ _ (numbered_assignedValues_subset (.inr rfl) ok),
    behindValues, isText⟩

/-- Both kinds of statement that write column values are compiled, and give the named columns, in
order, the texts that write the values. An `INSERT` leaves the values out if the only one is raw
and empty. Behind them stand the returned columns of an `INSERT` and the criteria of an `UPDATE`.
-/
structure WritesValues (dialect : Dialect) (query : Query) (names : List String)
    (values : List Value)
    : Prop where
  insert
    : ∃ compiled after texts behind,
        (forDialect dialect).compile .insert query = (.ok compiled, after)
        ∧ List.Forall₂ (Value.WrittenAs compiled.bound) values texts
        ∧ String.join (behind.map (" " ++ ·)) = query.returningText dialect
        ∧ compiled.sql
          = insertText (Identifier.quote dialect.quoteChar query.table) names
              (if values = [.raw ""] then none else some texts) behind
  update
    : ∃ compiled after texts behind last,
        (forDialect dialect).compile .update query = (.ok compiled, after)
        ∧ List.Forall₂ (Value.WrittenAs compiled.bound) values texts
        ∧ (forDialect dialect).writeClauses query (.criteria :: Plan.updateExtras dialect)
            (query.binder.prepareAll query.assignedValues).2
          = (.ok behind, last)
        ∧ compiled.sql
          = updateText (Identifier.quote dialect.quoteChar query.table) names texts behind

/-- A query with column values writes them, each by the quoted name of its column. -/
theorem writesValues (dialect : Dialect) (assigned : query.values ≠ [])
    : WritesValues dialect query
        ((OrderedMap.keys query.values).map (Identifier.quote dialect.quoteChar))
        (query.values.map (·.2)) :=
  ⟨exists_compile_insert dialect assigned, exists_compile_update dialect assigned⟩

end Compiler

end SqlCompiler
