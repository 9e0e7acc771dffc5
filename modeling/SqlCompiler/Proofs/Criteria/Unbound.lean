import SqlCompiler.Proofs.Criteria.Fragment
import SqlCompiler.Proofs.Statement.Bound

/-! Criteria that are built without a binder. That works if they have no value to bind, and then it
makes no difference whether there is a binder; otherwise the first predicate with such a value is
the one that is refused.
-/

namespace SqlCompiler

-----------------------------------------------------------------------------------------
-- Columns of slots
-----------------------------------------------------------------------------------------

/-- The column that a slot stands beside. -/
def Piece.slotColumn? : Piece → Option String
  | text _ | name _ => none
  | slot column _ => some column

namespace Template

/-- The columns of the slots, from left to right. -/
def slotColumns (template : Template) : List String :=
  template.filterMap Piece.slotColumn?

/-- Without a binder the first slot decides, by induction on the pieces. -/
theorem literalText_eq (quoteChar : Char) (template : Template)
    : template.literalText quoteChar
      = match template.slotColumns with
        | [] => .ok (template.render quoteChar "" 0)
        | column :: _ => .error (.missingBinder column) := by
  induction template with
  | nil => rfl
  | cons piece rest ih =>
      cases piece with
      | slot column value => rfl
      | text sql =>
          have columns : slotColumns (.text sql :: rest) = slotColumns rest := rfl
          rw [literalText, ih, columns]
          cases slotColumns rest <;> rfl
      | name identifier =>
          have columns : slotColumns (.name identifier :: rest) = slotColumns rest := rfl
          rw [literalText, ih, columns]
          cases slotColumns rest <;> rfl

theorem slotValues_of_slotColumns {template : Template} (none : template.slotColumns = [])
    : template.slotValues = [] := by
  refine List.filterMap_eq_nil_iff.mpr fun piece member => ?_
  have noColumn := List.filterMap_eq_nil_iff.mp none piece member
  cases piece with
  | text sql => rfl
  | name identifier => rfl
  | slot column value => cases noColumn

/-- Slots beside one column have that column for each of their values, by induction on the pieces.
-/
theorem slotColumns_eq {template : Template} {column : String}
    (beside : ∀ other value, .slot other value ∈ template → other = column)
    : template.slotColumns = template.slotValues.map fun _ => column := by
  induction template with
  | nil => rfl
  | cons piece rest ih =>
      have tail := ih fun other value member =>
        beside other value (List.mem_cons_of_mem piece member)
      cases piece with
      | text sql => exact tail
      | name identifier => exact tail
      | slot other value =>
          have same : other = column := beside other value List.mem_cons_self
          exact congrArg₂ List.cons same tail

theorem column_of_mem_ofValue {column other : String} {value : Value} {bound : SqlValue}
    (member : .slot other bound ∈ ofValue column value)
    : other = column := by
  cases value with
  | raw sql => simp [ofValue] at member
  | bind value => simp_all [ofValue]

theorem column_of_mem_ofValues {column other : String} {values : List Value} {bound : SqlValue}
    (member : .slot other bound ∈ ofValues column values)
    : other = column := by
  rcases Text.mem_intercalate member with separator | ⟨template, listed, member⟩
  · simp at separator
  · obtain ⟨value, -, rfl⟩ := List.mem_map.mp listed
    exact column_of_mem_ofValue member

end Template

-----------------------------------------------------------------------------------------
-- Predicates with values to bind
-----------------------------------------------------------------------------------------

namespace Predicate

/-- Among the values of the relation there is one to bind. -/
def Binds (predicate : Predicate) : Prop :=
  ∃ value, .bind value ∈ predicate.relation.values

theorem binds_iff {predicate : Predicate}
    : predicate.Binds ↔ predicate.relation.boundValues ≠ [] := by
  rw [Relation.boundValues]
  constructor
  · rintro ⟨value, listed⟩
    exact List.ne_nil_of_mem (List.mem_filterMap.mpr ⟨.bind value, listed, rfl⟩)
  · intro some
    obtain ⟨_, member⟩ := List.exists_mem_of_ne_nil _ some
    obtain ⟨value, listed, isBound⟩ := List.mem_filterMap.mp member
    cases value with
    | raw sql => cases isBound
    | bind value => exact ⟨value, listed⟩

/-- All slots of a predicate stand beside its column, by cases on the relation. -/
theorem column_of_mem_template {predicate : Predicate} {other : String} {value : SqlValue}
    (member : .slot other value ∈ predicate.template)
    : other = predicate.column := by
  obtain ⟨column, relation, connector⟩ := predicate
  have inList {values : List Value} {opening : String}
      (member
        : .slot other value
          ∈ Piece.name column :: .text opening
            :: (Template.ofValues column values ++ [.text " )"]))
      : other = column :=
    @Template.column_of_mem_ofValues column other values value (by simpa using member)
  cases relation with
  | compare op operand => exact Template.column_of_mem_ofValue (by simpa [template] using member)
  | like pattern => exact Template.column_of_mem_ofValue (by simpa [template] using member)
  | isIn values =>
      cases values with
      | nil => simp [template] at member
      | cons first rest => exact inList member
  | notIn values =>
      cases values with
      | nil => simp [template] at member
      | cons first rest => exact inList member
  | between low high =>
      have ends : .slot other value ∈ Template.ofValue column low
          ∨ .slot other value ∈ Template.ofValue column high := by
        simpa [template] using member
      exact ends.elim Template.column_of_mem_ofValue Template.column_of_mem_ofValue
  | isNull => simp [template] at member
  | isNotNull => simp [template] at member

theorem slotColumns_template (predicate : Predicate)
    : predicate.template.slotColumns
      = predicate.relation.boundValues.map fun _ => predicate.column := by
  rw [Template.slotColumns_eq fun _ _ => column_of_mem_template, slotValues_template]

end Predicate

-----------------------------------------------------------------------------------------
-- Criteria with values to bind
-----------------------------------------------------------------------------------------

theorem Entry.slotColumns_template_eq_nil_iff {entry : Entry}
    : entry.template.slotColumns = []
      ↔ ∀ predicate, entry = .predicate predicate → ¬ predicate.Binds := by
  cases entry with
  | raw sql => exact ⟨fun _ => nofun, fun _ => rfl⟩
  | predicate predicate =>
      have columns : (Entry.predicate predicate).template.slotColumns = _ :=
        predicate.slotColumns_template
      rw [columns, List.map_eq_nil_iff]
      constructor
      · rintro none _ ⟨⟩
        exact fun binds => Predicate.binds_iff.mp binds none
      · intro unbound
        exact not_not.mp (mt Predicate.binds_iff.mpr (unbound predicate rfl))

namespace Criteria

theorem slotColumns_template (criteria : Criteria)
    : criteria.template.slotColumns
      = criteria.entries.flatMap fun entry => entry.template.slotColumns :=
  filterMap_template (fun _ => rfl) criteria

theorem slotColumns_template_eq_nil_iff {criteria : Criteria}
    : criteria.template.slotColumns = []
      ↔ ∀ predicate, .predicate predicate ∈ criteria.entries → ¬ predicate.Binds := by
  rw [slotColumns_template, List.flatMap_eq_nil_iff]
  simp only [Entry.slotColumns_template_eq_nil_iff]
  constructor
  · intro unbound predicate listed
    exact unbound _ listed predicate rfl
  · rintro unbound _ listed predicate rfl
    exact unbound predicate listed

/-- The first slot of criteria is of their first predicate with a value to bind. -/
theorem exists_first_of_slotColumns {criteria : Criteria} {column : String}
    {others : List String} (columns : criteria.template.slotColumns = column :: others)
    : ∃ before predicate after,
        criteria.entries = before ++ .predicate predicate :: after
        ∧ (∀ other, .predicate other ∈ before → ¬ other.Binds)
        ∧ predicate.Binds
        ∧ column = predicate.column := by
  have first := congrArg List.head? columns
  rw [slotColumns_template, List.head?_flatMap, List.head?_cons, List.findSome?_eq_some_iff]
    at first
  obtain ⟨before, entry, after, parts, found, unbound⟩ := first
  obtain ⟨rest, ofEntry⟩ := List.head?_eq_some_iff.mp found
  cases entry with
  | raw sql => cases ofEntry
  | predicate predicate =>
      refine ⟨before, predicate, after, parts, fun other listed => ?_, ?_⟩
      · have none := List.head?_eq_none_iff.mp (unbound _ listed)
        exact Entry.slotColumns_template_eq_nil_iff.mp none other rfl
      · have columns : predicate.template.slotColumns = column :: rest := ofEntry
        rw [predicate.slotColumns_template] at columns
        obtain ⟨value, values, bound, same, -⟩ := List.map_eq_cons_iff.mp columns
        exact ⟨Predicate.binds_iff.mpr (bound ▸ List.cons_ne_nil _ _), same.symm⟩

end Criteria

-----------------------------------------------------------------------------------------
-- Building criteria
-----------------------------------------------------------------------------------------

namespace Compiler

variable {compiler : Compiler} {criteria : Criteria}

/-- Criteria without slots are built alike with every binder and without one. -/
theorem buildCriteria_of_slotColumns_eq_nil (none : criteria.template.slotColumns = [])
    (binder : Option Binder)
    : compiler.buildCriteria criteria binder
      = .ok (criteria.template.render compiler.quoteChar "" 0, binder) := by
  have literal := criteria.template.literalText_eq compiler.quoteChar
  simp only [none] at literal
  rw [buildCriteria_eq_build]
  cases binder with
  | none => rw [Template.build, literal, Except.map]
  | some binder =>
      rw [Template.build, Template.fill_eq, Template.slotValues_of_slotColumns none,
        Template.render_of_literalText literal]
      rfl

theorem buildCriteria_of_slotColumns_eq_cons {column : String} {others : List String}
    (columns : criteria.template.slotColumns = column :: others)
    : compiler.buildCriteria criteria none = .error (.missingBinder column) := by
  have literal := criteria.template.literalText_eq compiler.quoteChar
  simp only [columns] at literal
  rw [buildCriteria_eq_build, Template.build, literal, Except.map]

/-- Without a binder criteria are built exactly if no predicate has a value to bind. Then the text
is the one that every binder gives, and no binder changes; otherwise the column of the first
predicate with a value to bind is named. With a binder criteria are always built.
-/
theorem buildCriteria_withoutBinder (compiler : Compiler) (criteria : Criteria)
    : let built := compiler.buildCriteria criteria none
      ((∃ sql, built = .ok (sql, none))
        ↔ ∀ predicate, .predicate predicate ∈ criteria.entries → ¬ predicate.Binds)
      ∧ (∀ sql last,
          built = .ok (sql, last)
          → last = none
            ∧ ∀ binder, compiler.buildCriteria criteria (some binder) = .ok (sql, some binder))
      ∧ (∀ error,
          built = .error error
          → ∃ before predicate after,
              criteria.entries = before ++ .predicate predicate :: after
              ∧ (∀ other, .predicate other ∈ before → ¬ other.Binds)
              ∧ predicate.Binds
              ∧ error = .missingBinder predicate.column)
      ∧ ∀ binder, ∃ sql last,
          compiler.buildCriteria criteria (some binder) = .ok (sql, some last) := by
  intro built
  rw [← Criteria.slotColumns_template_eq_nil_iff]
  have always (binder : Binder)
      : ∃ sql last, compiler.buildCriteria criteria (some binder) = .ok (sql, some last) :=
    ⟨_, _, compiler.buildCriteria_some criteria binder⟩
  cases columns : criteria.template.slotColumns with
  | nil =>
      have same := @buildCriteria_of_slotColumns_eq_nil compiler criteria columns
      have isBuilt : built = .ok (criteria.template.render compiler.quoteChar "" 0, none) :=
        same none
      rw [isBuilt]
      refine ⟨⟨fun _ => rfl, fun _ => ⟨_, rfl⟩⟩, ?same, nofun, always⟩
      case same =>
        rintro sql last ⟨⟩
        exact ⟨rfl, fun binder => same (some binder)⟩
  | cons column others =>
      have isRefused : built = .error (.missingBinder column) :=
        buildCriteria_of_slotColumns_eq_cons columns
      rw [isRefused]
      refine ⟨⟨nofun, nofun⟩, nofun, ?first, always⟩
      case first =>
        rintro error ⟨⟩
        obtain ⟨before, predicate, after, parts, unbound, binds, rfl⟩ :=
          Criteria.exists_first_of_slotColumns columns
        exact ⟨before, predicate, after, parts, unbound, binds, rfl⟩

/-- A raw value beside one to bind, behind raw values, an empty list and a fragment. -/
theorem buildCriteria_withoutBinder_named
    : let before : List Entry :=
        [.raw "and x = 1", .predicate ⟨"a", .between (.raw "1") (.raw "NOW()"), .or⟩,
          .predicate ⟨"b", .isIn [], .or⟩]
      let offender : Predicate := ⟨"c", .notIn [.raw "2", .bind .null], .and⟩
      let sql := "x = 1 OR \"a\" BETWEEN 1 AND NOW() OR 1 = 0"
      (forDialect .generic).buildCriteria ⟨before⟩ none = .ok (sql, none)
      ∧ (∀ binder, (forDialect .generic).buildCriteria ⟨before⟩ (some binder)
          = .ok (sql, some binder))
      ∧ (forDialect .generic).buildCriteria ⟨before ++ [.predicate offender]⟩ none
        = .error (.missingBinder "c") := by
  intro before offender sql
  have built : (forDialect .generic).buildCriteria ⟨before⟩ none = .ok (sql, none) := by
    decide +kernel
  obtain ⟨-, same, -⟩ := buildCriteria_withoutBinder (forDialect .generic) ⟨before⟩
  exact ⟨built, (same sql none built).2, by decide +kernel⟩

end Compiler

end SqlCompiler
