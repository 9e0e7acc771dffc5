import SqlCompiler.Proofs.Statement.Criteria
import SqlCompiler.Proofs.Statement.Refusal
import SqlCompiler.Proofs.Text.Intercalate

/-! An `INSERT` lists its columns and, in the same order, their values. Both lists are written from
the same column values, but each is left out on its own when it has no text. The list of columns
always has some; the list of values has none if it is a single raw value without text.
-/

namespace SqlCompiler

-----------------------------------------------------------------------------------------
-- Lists of identifiers and of values
-----------------------------------------------------------------------------------------

namespace Template

/-- The text of a template is what filling it with a binder writes. -/
theorem render_eq_fill (quoteChar : Char) (binder : Binder) (template : Template)
    : template.render quoteChar binder.placeholderPrefix binder.counter
      = (template.fill quoteChar binder).1 := by
  rw [fill_eq]

theorem render_ofNames (quoteChar : Char) (binder : Binder) (names : List String)
    : (ofNames names).render quoteChar binder.placeholderPrefix binder.counter
      = String.intercalate ", " (names.map (Identifier.quote quoteChar)) := by
  have each (name : String) (binder : Binder)
      : (ofName name).fill quoteChar binder = (Identifier.quote quoteChar name, binder) := by
    simp [ofName, fill]
  rw [render_eq_fill, ofNames, fill_join, fillAll_map each]

/-- The texts of some values: a raw one is its own, a bound one has a placeholder. Placeholders are
numbered from `number` on.
-/
def tokens (placeholderPrefix : String) : (number : Nat) → List Value → List String
  | _, [] => []
  | number, .raw sql :: values => sql :: tokens placeholderPrefix number values
  | number, .bind _ :: values =>
      Binder.placeholder placeholderPrefix number
        :: tokens placeholderPrefix (number + 1) values

theorem length_tokens (placeholderPrefix : String) (number : Nat) (values : List Value)
    : (tokens placeholderPrefix number values).length = values.length := by
  induction values generalizing number with
  | nil => rfl
  | cons value values ih => cases value <;> simp [tokens, ih]

theorem fill_ofValue (quoteChar : Char) (column : String) (value : Value) (binder : Binder)
    : (ofValue column value).fill quoteChar binder
      = match value with
        | .raw sql => (sql, binder)
        | .bind value => binder.prepare value := by
  cases value <;> simp [ofValue, fill]

/-- Values are written one by one, each bound one with the next placeholder, by induction on them.
-/
theorem fillAll_ofValue (quoteChar : Char) (assigned : List (String × Value)) (binder : Binder)
    : (fillAll quoteChar (assigned.map fun (column, value) => ofValue column value) binder).1
      = tokens binder.placeholderPrefix binder.counter (assigned.map (·.2)) := by
  induction assigned generalizing binder with
  | nil => rfl
  | cons pair assigned ih =>
      obtain ⟨column, value⟩ := pair
      cases value with
      | raw sql => simp only [List.map_cons, fillAll, fill_ofValue, ih, tokens]
      | bind value =>
          simp only [List.map_cons, fillAll, fill_ofValue, ih, tokens]
          rfl

/-- A part between brackets is left out exactly if there is nothing between them. -/
theorem toList_render_enclosed (quoteChar : Char) (binder : Binder) (opening : String)
    (template : Template)
    : ((template.enclosed opening).map
        (render quoteChar binder.placeholderPrefix binder.counter)).toList
      = if template.isBlank then []
        else
          [opening ++ template.render quoteChar binder.placeholderPrefix binder.counter
            ++ " )"] := by
  rw [enclosed, nonBlank?]
  cases template.isBlank with
  | true => rfl
  | false => simp [render_eq_fill, fill, fill_append, String.append_assoc]

end Template

namespace Query

theorem render_valueList (quoteChar : Char) (query : Query) (binder : Binder)
    : query.valueList.render quoteChar binder.placeholderPrefix binder.counter
      = String.intercalate ", "
          (Template.tokens binder.placeholderPrefix binder.counter (query.values.map (·.2))) := by
  rw [Template.render_eq_fill, valueList, Template.fill_join, Template.fillAll_ofValue]

/-- The values have no text only if there is a single one, which is raw and empty: between two
values there is a comma, and a placeholder always shows.
-/
theorem isBlank_valueList {query : Query} (assigned : query.values ≠ [])
    : query.valueList.isBlank = true ↔ query.values.map (·.2) = [.raw ""] := by
  obtain ⟨⟨column, value⟩, rest, values⟩ := List.exists_cons_of_ne_nil assigned
  rw [valueList, values]
  cases rest with
  | nil => cases value <;> simp [Template.join, Template.ofValue, Template.isBlank]
  | cons next rest => simp [Template.join, Template.isBlank]

/-- Columns always show, even one without a name. -/
theorem isBlank_columns {query : Query} (assigned : query.values ≠ [])
    : (Template.ofNames (OrderedMap.keys query.values)).isBlank = false := by
  obtain ⟨⟨column, value⟩, rest, values⟩ := List.exists_cons_of_ne_nil assigned
  rw [Template.ofNames, values]
  cases rest <;> simp [OrderedMap.keys, Template.join, Template.ofName, Template.isBlank]

/-- What stands behind the values of an `INSERT`, in the dialect that has something there. -/
def returningText (query : Query) (dialect : Dialect) : String :=
  match dialect, query.returning with
  | .pgsql, some sql => if sql = "" then "" else " RETURNING " ++ sql
  | _, _ => ""

end Query

-----------------------------------------------------------------------------------------
-- Insertions
-----------------------------------------------------------------------------------------

namespace Compiler

variable {dialect : Dialect} {query : Query} {binder last : Binder} {texts : List String}

theorem writeClauses_returning
    (written
      : (forDialect dialect).writeClauses query
          (if dialect.supportsReturning then [.returning] else []) binder
        = (.ok texts, last))
    : String.join (texts.map (" " ++ ·)) = query.returningText dialect := by
  cases dialect with
  | mysql | sqlite | generic =>
      obtain rfl := Except.ok.inj (Prod.mk.inj written).1
      rfl
  | pgsql =>
      obtain ⟨part, others, yields, nothing, rfl⟩ := writeClauses_cons_eq_ok_iff.mp written
      obtain rfl := Except.ok.inj (Prod.mk.inj nothing).1
      obtain rfl := Except.ok.inj yields
      unfold Query.returningText
      cases query.returning with
      | none => rfl
      | some sql =>
          rw [List.append_nil, Option.bind_some, Template.toList_render_headed, headedText]
          by_cases empty : sql = ""
          · simp [empty, Template.ofText, Template.render]
          · simp [empty, Template.ofText, Template.render, ← String.append_assoc]

/-- A clause that binds nothing leaves the binder to the clauses behind it. -/
theorem writeClauses_unbound {clause : Clause} {rest : List Clause} {part : Option Template}
    (yields : clause.template dialect query = .ok part)
    (unbound : Template.partValues part = [])
    (written
      : (forDialect dialect).writeClauses query (clause :: rest) binder = (.ok texts, last))
    : ∃ others,
        (forDialect dialect).writeClauses query rest binder = (.ok others, last)
        ∧ texts
          = (part.map
              (Template.render dialect.quoteChar binder.placeholderPrefix
                binder.counter)).toList ++ others := by
  obtain ⟨_, others, isPart, behind, rfl⟩ := writeClauses_cons_eq_ok_iff.mp written
  obtain rfl := Except.ok.inj (yields.symm.trans isPart)
  rw [unbound, Binder.prepareAll] at behind
  exact ⟨others, behind, rfl⟩

/-- The columns and the values stand between brackets of their own. -/
theorem writeClauses_insert (assigned : query.values ≠ [])
    (written
      : (forDialect dialect).writeClauses query ((Plan.forDialect dialect).clauses .insert) binder
        = (.ok texts, last))
    : let quote := Identifier.quote dialect.quoteChar
      let values := query.values.map (·.2)
      ∃ returned,
        texts
          = quote query.table
            :: ("( " ++ String.intercalate ", " ((OrderedMap.keys query.values).map quote)
              ++ " )")
            :: (if values = [.raw ""] then []
                else
                  ["VALUES ( "
                    ++ String.intercalate ", "
                        (Template.tokens binder.placeholderPrefix binder.counter values)
                    ++ " )"])
            ++ returned
        ∧ String.join (returned.map (" " ++ ·)) = query.returningText dialect := by
  intro quote values
  have yields
      : Clause.template dialect query .insertColumns
        = .ok ((Template.ofNames (OrderedMap.keys query.values)).enclosed "( ") := by
    rw [Clause.template_insertColumns, if_neg (by simpa using assigned)]
  have slotless
      : Template.partValues
          ((Template.ofNames (OrderedMap.keys query.values)).enclosed "( ") = [] := by
    rw [Template.partValues_enclosed, Template.slotValues_ofNames]
  obtain ⟨_, behindTable, rfl⟩ := writeClauses_unbound rfl rfl written
  obtain ⟨_, behindColumns, rfl⟩ := writeClauses_unbound yields slotless behindTable
  obtain ⟨_, returned, isValues, behindValues, rfl⟩ :=
    writeClauses_cons_eq_ok_iff.mp behindColumns
  obtain rfl := Except.ok.inj isValues
  refine ⟨returned, ?_, writeClauses_returning behindValues⟩
  have atTable
      : ((some (Template.ofName query.table)).map
          (Template.render dialect.quoteChar binder.placeholderPrefix binder.counter)).toList
        = [quote query.table] := by
    simp [Template.ofName, Template.render, quote]
  have atColumns
      : (((Template.ofNames (OrderedMap.keys query.values)).enclosed "( ").map
          (Template.render dialect.quoteChar binder.placeholderPrefix binder.counter)).toList
        = ["( " ++ String.intercalate ", " ((OrderedMap.keys query.values).map quote)
            ++ " )"] := by
    rw [Template.toList_render_enclosed, Query.isBlank_columns assigned,
      Template.render_ofNames]
    rfl
  have atValues
      : ((query.valueList.enclosed "VALUES ( ").map
          (Template.render dialect.quoteChar binder.placeholderPrefix binder.counter)).toList
        = if values = [.raw ""] then []
          else
            ["VALUES ( "
              ++ String.intercalate ", "
                  (Template.tokens binder.placeholderPrefix binder.counter values)
              ++ " )"] := by
    rw [Template.toList_render_enclosed, Query.render_valueList]
    simp only [Query.isBlank_valueList assigned]
    rfl
  rw [atTable, atColumns]
  exact congrArg (fun shown => _ :: _ :: (shown ++ returned)) atValues

/-- An `INSERT` with column values is always compiled. It lists as many values as columns, each by
its placeholder or its raw text, and binds the values that have a placeholder. The values are left
out if the only one is raw and empty, and then the columns stand alone.
-/
theorem compile_insert (dialect : Dialect) {query : Query} (assigned : query.values ≠ [])
    : let quote := Identifier.quote dialect.quoteChar
      let columns := (OrderedMap.keys query.values).map quote
      let values := query.values.map (·.2)
      let tokens :=
        Template.tokens query.binder.placeholderPrefix query.binder.counter values
      ∃ compiled after,
        (forDialect dialect).compile .insert query = (.ok compiled, after)
        ∧ columns.length = query.values.length
        ∧ tokens.length = query.values.length
        ∧ compiled.bound
          = Binder.numbered query.binder.placeholderPrefix query.binder.counter
              query.assignedValues
        ∧ compiled.sql
          = "INSERT INTO " ++ quote query.table
            ++ " ( " ++ String.intercalate ", " columns ++ " )"
            ++ (if values = [.raw ""] then ""
                else " VALUES ( " ++ String.intercalate ", " tokens ++ " )")
            ++ query.returningText dialect := by
  intro quote columns values tokens
  rcases outcome : (forDialect dialect).compile .insert query with ⟨error | compiled, after⟩
  · have refused := compile_eq_error_iff.mp (congrArg Prod.fst outcome)
    rcases Query.refusal?_eq_some_iff.mp refused with ⟨select, _⟩ | ⟨_, none, _⟩
    · cases select
    · exact absurd none assigned
  obtain ⟨template, templateOk, _, bound, _⟩ := compile_ok outcome
  obtain ⟨texts, _, written, isText, _⟩ := exists_writeClauses outcome
  obtain ⟨returned, rfl, shown⟩ := writeClauses_insert assigned written
  refine ⟨compiled, after, rfl, ?_, ?_, ?_, ?_⟩
  · simp [columns, OrderedMap.keys]
  · simp [tokens, values, Template.length_tokens]
  · rw [bound, slotValues_template templateOk]
    rfl
  · have verb : "INSERT INTO " = StatementKind.insert.keyword ++ " " := rfl
    have opening : " ( " = " " ++ "( " := rfl
    have openingValues : " VALUES ( " = " " ++ "VALUES ( " := rfl
    rw [isText, Text.intercalate_cons, ← shown, verb, opening, openingValues]
    by_cases blank : values = [.raw ""]
    · rw [if_pos blank, if_pos blank]
      simp only [List.nil_append, List.cons_append, List.map_cons, String.join_cons,
        String.append_assoc, String.empty_append, -String.reduceAppend, columns, quote]
    · rw [if_neg blank, if_neg blank]
      simp only [List.nil_append, List.cons_append, List.map_cons, String.join_cons,
        String.append_assoc, -String.reduceAppend, columns, quote, tokens, values]

/-- A raw value without text beside others is still listed. -/
theorem compile_insert_mixed
    : let query : Query :=
        { table := "t"
          values := [("a", .raw ""), ("b", .bind (.int 1)), ("c", .raw "NOW()")]
          returning := some "a"
          binder := (Binder.prepare {} .null).2 }
      query.values ≠ []
      ∧ ∃ compiled after,
          (forDialect .pgsql).compile .insert query = (.ok compiled, after)
          ∧ compiled.bound = [⟨":db_prep_2", .int 1⟩]
          ∧ compiled.sql
            = "INSERT INTO \"t\" ( \"a\", \"b\", \"c\" ) VALUES ( , :db_prep_2, NOW() )"
              ++ " RETURNING a" := by
  intro query
  have assigned : query.values ≠ [] := List.cons_ne_nil _ _
  obtain ⟨compiled, after, ok, _, _, bound, sql⟩ := compile_insert .pgsql assigned
  exact ⟨assigned, compiled, after, ok, bound.trans (by decide +kernel),
    sql.trans (by decide +kernel)⟩

/-- The columns stand alone behind a single raw value without text: the values are missing, with
nothing else to tell.
-/
theorem compile_insert_withoutValues
    : let query : Query := { table := "t", values := [("a", .raw "")] }
      query.values ≠ []
      ∧ ((forDialect .pgsql).compile .insert query).1
        = .ok
            { kind := .insert
              dialect := .pgsql
              sql := "INSERT INTO \"t\" ( \"a\" )"
              bound := [] } := by
  decide +kernel

end Compiler

end SqlCompiler
