import SqlCompiler.Proofs.Template.Slots

/-! The values that a statement binds: those of the column values and of the criteria that its
kind writes, in the order they are written in, whatever the dialect. Raw values and raw
fragments are not bound, and nothing else is left out.
-/

namespace SqlCompiler

-----------------------------------------------------------------------------------------
-- The values to bind
-----------------------------------------------------------------------------------------

/-- The values of a relation that are to be bound. -/
def Relation.boundValues (relation : Relation) : List SqlValue :=
  relation.values.filterMap Value.bound?

def Entry.boundValues : Entry → List SqlValue
  | predicate p => p.relation.boundValues
  | raw _ => []

def Criteria.boundValues (criteria : Criteria) : List SqlValue :=
  criteria.entries.flatMap Entry.boundValues

namespace Query

/-- The column values that are to be bound, in the order of the columns. -/
def assignedValues (query : Query) : List SqlValue :=
  query.values.filterMap fun (_, value) => value.bound?

/-- The values that a statement of a kind binds. -/
def boundValues (query : Query) : StatementKind → List SqlValue
  | .select => query.criteria.boundValues ++ query.having.boundValues
  | .insert => query.assignedValues
  | .update => query.assignedValues ++ query.criteria.boundValues
  | .delete => query.criteria.boundValues

end Query

/-- The values that a clause binds. -/
def Clause.boundValues (query : Query) : Clause → List SqlValue
  | .criteria => query.criteria.boundValues
  | .having => query.having.boundValues
  | .insertValues | .updateSet => query.assignedValues
  | _ => []

-----------------------------------------------------------------------------------------
-- Criteria
-----------------------------------------------------------------------------------------

theorem Template.slotValues_ofValues (column : String) (values : List Value)
    : (ofValues column values).slotValues = values.filterMap Value.bound? := by
  rw [ofValues, slotValues_join_map]
  simp only [slotValues_ofValue]
  exact (List.filterMap_eq_flatMap_toList _ _).symm

/-- A predicate has a slot for every value of its relation that is to be bound, by cases on the
relation; the constants for empty lists have none.
-/
theorem Predicate.slotValues_template (predicate : Predicate)
    : predicate.template.slotValues = predicate.relation.boundValues := by
  obtain ⟨column, relation, connector⟩ := predicate
  have list (values : List Value)
      : (Template.ofValues column values ++ [Piece.text " )"]).slotValues
        = values.filterMap Value.bound? := by
    rw [Template.slotValues_append, Template.slotValues_ofValues]
    exact List.append_nil _
  cases relation with
  | compare op value => cases value <;> rfl
  | like pattern => cases pattern <;> rfl
  | isIn values =>
      cases values with
      | nil => rfl
      | cons value values => exact list (value :: values)
  | notIn values =>
      cases values with
      | nil => rfl
      | cons value values => exact list (value :: values)
  | between low high => cases low <;> cases high <;> rfl
  | isNull => rfl
  | isNotNull => rfl

theorem Entry.slotValues_template (entry : Entry)
    : entry.template.slotValues = entry.boundValues := by
  cases entry with
  | predicate predicate => exact predicate.slotValues_template
  | raw sql => rfl

/-- Criteria have the identifiers and slots of all their entries, by induction on the entries. One
that is not written is blank, so it has none.
-/
theorem Criteria.filterMap_template {β : Type} {f : Piece → Option β}
    (noText : ∀ sql, f (.text sql) = none) (criteria : Criteria)
    : criteria.template.filterMap f
      = criteria.entries.flatMap fun entry => entry.template.filterMap f := by
  have written
      : criteria.template.filterMap f
        = criteria.written.flatMap fun entry => entry.template.filterMap f := by
    rw [Criteria.template]
    cases criteria.written with
    | nil => rfl
    | cons first rest =>
        have connected (entry : Entry)
            : (Criteria.connected entry).filterMap f = entry.template.filterMap f :=
          List.filterMap_cons_none (noText _)
        rw [List.filterMap_append, List.filterMap_flatMap,
          List.flatMap_congr fun entry _ => connected entry, List.flatMap_cons]
  rw [written, Criteria.written]
  generalize criteria.entries = entries
  induction entries with
  | nil => rfl
  | cons entry entries ih =>
      cases blank : entry.template.isBlank with
      | false => simp [blank, ih]
      | true => simp [blank, ih, Template.filterMap_of_isBlank noText blank]

theorem Criteria.slotValues_template (criteria : Criteria)
    : criteria.template.slotValues = criteria.boundValues :=
  (filterMap_template (fun _ => rfl) criteria).trans
    (List.flatMap_congr fun entry _ => entry.slotValues_template)

-----------------------------------------------------------------------------------------
-- Clauses and statements
-----------------------------------------------------------------------------------------

theorem Template.slotValues_ofNames (names : List String)
    : (ofNames names).slotValues = [] :=
  slotValues_join_map_eq_nil ", " fun _ _ => rfl

namespace Query

theorem slotValues_selectList (query : Query) : query.selectList.slotValues = [] := by
  rw [selectList]
  split
  · rfl
  · refine Template.slotValues_join_map_eq_nil ", " ?_
    rintro ⟨expr, columnAlias⟩ _
    cases expr <;> cases columnAlias <;> rfl

theorem slotValues_joins (query : Query)
    : (Template.join " " (query.joins.map Join.template)).slotValues = [] := by
  refine Template.slotValues_join_map_eq_nil " " ?_
  rintro ⟨kind, table, tableAlias, condition⟩ _
  cases tableAlias <;> cases condition <;> rfl

theorem slotValues_sortList (query : Query) : query.sortList.slotValues = [] :=
  Template.slotValues_join_map_eq_nil ", " fun _ _ => rfl

/-- Whatever is written around the column values, it has no slots of its own. -/
theorem slotValues_join_values (query : Query) (separator : String)
    {template : String × Value → Template}
    (oneSlot
      : ∀ column value, (template (column, value)).slotValues = value.bound?.toList)
    : (Template.join separator (query.values.map template)).slotValues
      = query.assignedValues := by
  rw [Template.slotValues_join_map, assignedValues, List.filterMap_eq_flatMap_toList]
  exact List.flatMap_congr fun (column, value) _ => oneSlot column value

theorem slotValues_valueList (query : Query)
    : query.valueList.slotValues = query.assignedValues :=
  query.slotValues_join_values ", " Template.slotValues_ofValue

theorem slotValues_assignmentList (query : Query)
    : query.assignmentList.slotValues = query.assignedValues :=
  query.slotValues_join_values ", " Template.slotValues_ofValue

end Query

/-- A clause that can be written has slots for the values it binds, by cases on the clause. -/
theorem Clause.partValues_template {dialect : Dialect} {query : Query} {clause : Clause}
    {part : Option Template} (ok : clause.template dialect query = .ok part)
    : Template.partValues part = clause.boundValues query := by
  cases clause with
  | flags => exact Except.ok.inj ok ▸ Template.partValues_nonBlank? _
  | columns => exact Except.ok.inj ok ▸ query.slotValues_selectList
  | source | table => exact Except.ok.inj ok ▸ rfl
  | joins =>
      rw [← Except.ok.inj ok, Template.partValues_nonBlank?, query.slotValues_joins]
      rfl
  | criteria =>
      rw [← Except.ok.inj ok, Template.partValues_headed, query.criteria.slotValues_template]
      rfl
  | having =>
      rw [← Except.ok.inj ok, Template.partValues_headed, query.having.slotValues_template]
      rfl
  | groupBy =>
      rw [← Except.ok.inj ok, Template.partValues_headed, Template.slotValues_ofNames]
      rfl
  | orderBy =>
      rw [← Except.ok.inj ok, Template.partValues_headed, query.slotValues_sortList]
      rfl
  | tableAlias | limit | offset | limitOffset =>
      cases part with
      | none => rfl
      | some part =>
          obtain ⟨_, _, rfl⟩ := Option.map_eq_some_iff.mp (Except.ok.inj ok)
          rfl
  | returning =>
      rw [← Except.ok.inj ok]
      cases query.returning with
      | none => rfl
      | some sql => exact Template.partValues_headed "RETURNING" (.ofText sql)
  | lock =>
      cases part with
      | none => rfl
      | some part => exact lock_ok ok ▸ rfl
  | insertValues =>
      rw [← Except.ok.inj ok, Template.partValues_enclosed, query.slotValues_valueList]
      rfl
  | insertColumns =>
      rw [← insertColumns_ok ok, Template.partValues_enclosed, Template.slotValues_ofNames]
      rfl
  | updateSet =>
      rw [← updateSet_ok ok, Template.partValues_headed, query.slotValues_assignmentList]
      rfl

theorem Clause.flatMap_partValues {dialect : Dialect} {query : Query} {clauses : List Clause}
    {parts : List (Option Template)}
    (yields
      : List.Forall₂ (fun clause part => template dialect query clause = .ok part)
          clauses parts)
    : parts.flatMap Template.partValues = clauses.flatMap (Clause.boundValues query) := by
  induction yields with
  | nil => rfl
  | cons head _ ih =>
      rw [List.flatMap_cons, List.flatMap_cons, ih, Clause.partValues_template head]

/-- The clauses of a plan bind the values of their kind of statement. The clauses that only some
dialects have bind none, and no dialect changes the order of the others.
-/
theorem Plan.flatMap_boundValues (dialect : Dialect) (kind : StatementKind) (query : Query)
    : ((forDialect dialect).clauses kind).flatMap (Clause.boundValues query)
      = query.boundValues kind := by
  cases kind <;> cases dialect <;>
    simp [forDialect, clauses, paging, updateExtras, Dialect.supportsReturning,
      Clause.boundValues, Query.boundValues]

namespace Compiler

theorem slotValues_template {dialect : Dialect} {kind : StatementKind} {query : Query}
    {template : Template} (ok : (forDialect dialect).template kind query = .ok template)
    : template.slotValues = query.boundValues kind := by
  obtain ⟨parts, yields, rfl⟩ := template_eq_ok_iff.mp ok
  calc Template.slotValues (.join " " (.ofText kind.keyword :: parts.filterMap id))
      = (parts.filterMap id).flatMap Template.slotValues := Template.slotValues_join ..
    _ = parts.flatMap Template.partValues := Template.flatMap_partValues parts
    _ = ((Plan.forDialect dialect).clauses kind).flatMap (Clause.boundValues query) :=
        Clause.flatMap_partValues yields
    _ = query.boundValues kind := Plan.flatMap_boundValues dialect kind query

/-- Compiling a statement binds the values to bind of its kind, in this order and no others,
under every dialect: of a `SELECT` those of `WHERE` and then those of `HAVING`, of an `INSERT`
the column values, of an `UPDATE` the column values and then those of `WHERE`, of a `DELETE`
those of `WHERE`. The log counts and shows the bindings that are added.
-/
theorem compile_boundValues {dialect : Dialect} {kind : StatementKind} {query after : Query}
    {compiled : Compiled}
    (ok : (forDialect dialect).compile kind query = (.ok compiled, after))
    : ∃ added,
        after.binder.bindings = query.binder.bindings ++ added
        ∧ added.map (·.value) = query.boundValues kind
        ∧ compiled.bound = added
        ∧ compiled.events
          = [{ level := .debug
               message := "compiled statement"
               fields :=
                 [("kind", kind.name), ("dialect", dialect.name),
                   ("bindings", toString added.length)] },
              { level := .trace
                message := "compiled sql"
                fields :=
                  [("sql", compiled.sql),
                    ("bindings",
                      String.intercalate ", "
                        (added.map fun binding =>
                          binding.placeholder ++ "=" ++ binding.value.literal))] }] := by
  obtain ⟨template, templateOk, _, bound, rfl⟩ := compile_ok ok
  have outcome := congrArg Prod.fst ok
  refine ⟨compiled.bound, ?_, ?_, rfl, ?_⟩
  · rw [bound, Binder.prepareAll_eq]
  · rw [bound, Binder.map_value_numbered, slotValues_template templateOk]
  · rw [compile_eq, templateOk] at outcome
    cases outcome
    rfl

/-- Raw values stand between bound ones, one list is empty, and a fragment is blank; the
placeholders go on behind the value that was bound before.
-/
theorem compile_boundValues_interleaved
    : let query : Query :=
        { table := "t"
          values := [("a", .bind (.int 1)), ("b", .raw "NOW()"), ("c", .bind .null)]
          criteria :=
            ⟨[.predicate ⟨"d", .isIn [.raw "0", .bind (.text "x"), .bind .null], .or⟩,
              .predicate ⟨"e", .notIn [], .and⟩,
              .raw " ",
              .predicate ⟨"f", .between (.bind (.int 2)) (.bind (.int 3)), .or⟩]⟩
          having := ⟨[.predicate ⟨"g", .like (.bind (.text "y")), .and⟩]⟩
          binder := (Binder.prepare {} (.bool true)).2 }
      let added : List Binding :=
        [⟨":db_prep_2", .int 1⟩, ⟨":db_prep_3", .null⟩, ⟨":db_prep_4", .text "x"⟩,
          ⟨":db_prep_5", .null⟩, ⟨":db_prep_6", .int 2⟩, ⟨":db_prep_7", .int 3⟩]
      let compiled : Compiled :=
        { kind := .update
          dialect := .mysql
          sql :=
            "UPDATE \x60t\x60 SET \x60a\x60 = :db_prep_2, \x60b\x60 = NOW(), \x60c\x60 = :db_prep_3"
              ++ " WHERE \x60d\x60 IN ( 0, :db_prep_4, :db_prep_5 ) AND 1 = 1"
              ++ " OR \x60f\x60 BETWEEN :db_prep_6 AND :db_prep_7"
          bound := added }
      ((forDialect .mysql).compile .update query).1 = .ok compiled
      ∧ query.boundValues .update
        = [.int 1, .null, .text "x", .null, .int 2, .int 3]
      ∧ added.map (·.value) = query.boundValues .update := by
  intro query added compiled
  have ok : ((forDialect .mysql).compile .update query).1 = .ok compiled := by
    decide +kernel
  obtain ⟨_, _, values, rfl, _⟩ := compile_boundValues (Prod.ext ok rfl)
  exact ⟨ok, rfl, values⟩

end Compiler

end SqlCompiler
