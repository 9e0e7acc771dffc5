import SqlCompiler.Document.Query
import SqlCompiler.Proofs.Statement.Relabelling

/-! A document is translated in passes over its lists. Criteria are put together step by step,
but each of their entries comes from one condition of the document and from nothing else.
-/

namespace SqlCompiler

section

variable {ε ε' α β : Type}

theorem bind_eq_ok_iff {outcome : Except ε α} {f : α → Except ε β} {b : β}
    : (outcome >>= f) = .ok b ↔ ∃ a, outcome = .ok a ∧ f a = .ok b := by
  cases outcome <;> simp [bind, Except.bind]

theorem map_eq_ok_iff {outcome : Except ε α} {f : α → β} {b : β}
    : outcome.map f = .ok b ↔ ∃ a, outcome = .ok a ∧ f a = b := by
  cases outcome <;> simp [Except.map]

theorem mapError_eq_ok_iff {outcome : Except ε α} {f : ε → ε'} {a : α}
    : outcome.mapError f = .ok a ↔ outcome = .ok a := by
  cases outcome <;> simp [Except.mapError]

theorem map_bind {γ : Type} (outcome : Except ε α) (f : α → Except ε β) (g : β → γ)
    : (outcome >>= f).map g = outcome >>= fun a => (f a).map g := by
  cases outcome <;> rfl

theorem toOption_eq_some_iff {outcome : Except ε α} {a : α}
    : outcome.toOption = some a ↔ outcome = .ok a := by
  cases outcome <;> simp [Except.toOption]

/-- Outcomes that a function takes to one outcome are one error, or results that it takes to one
result.
-/
theorem outcomes_of_map_eq {left right : Except ε α} {f : α → β}
    (same : left.map f = right.map f)
    : (∃ error, left = .error error ∧ right = .error error)
      ∨ ∃ a b, left = .ok a ∧ right = .ok b ∧ f a = f b := by
  cases left <;> cases right <;> simp_all [Except.map]

end

-----------------------------------------------------------------------------------------
-- Conditions
-----------------------------------------------------------------------------------------

namespace CriterionSpec

/-- The entry that a condition of a document describes. -/
def toEntry : CriterionSpec → Except CriterionFault Entry
  | raw sql => .ok (.raw sql)
  | predicate column operator json alternative => do
      let operand ← (Operand.ofJson json).mapError (.operand column)
      let relation ← (Relation.ofKeyword column operator operand).mapError .relation
      let connector := if alternative then Connector.or else Connector.and
      return .predicate { column, relation, connector }

/-- The entry of a condition: its fragment, or its column, its relation and `OR` exactly if it is
an alternative.
-/
inductive Describes : CriterionSpec → Entry → Prop
  | raw (sql : String) : Describes (raw sql) (.raw sql)
  | predicate {column operator : String} {json : Json} {alternative : Bool} {operand : Operand}
    {relation : Relation}
    (isOperand : Operand.ofJson json = .ok operand)
    (isRelation : Relation.ofKeyword column operator operand = .ok relation)
    : Describes (predicate column operator json alternative)
        (.predicate { column, relation, connector := if alternative then .or else .and })

/-- A condition that is accepted yields the entry that it describes. -/
theorem describes_of_toEntry {spec : CriterionSpec} {entry : Entry}
    (accepted : spec.toEntry = .ok entry)
    : spec.Describes entry := by
  cases spec with
  | raw sql =>
      obtain rfl := Except.ok.inj accepted
      exact .raw sql
  | predicate column operator json alternative =>
      simp only [toEntry, bind_eq_ok_iff, mapError_eq_ok_iff] at accepted
      obtain ⟨operand, isOperand, relation, isRelation, same⟩ := accepted
      obtain rfl := Except.ok.inj same
      exact .predicate isOperand isRelation

end CriterionSpec

namespace Document

variable {document : Document} {binder : Binder} {query : Query}

/-- A condition adds its entry, or is refused, whatever stands before it. -/
theorem addCriterion_eq (criteria : Criteria) (spec : CriterionSpec)
    : addCriterion criteria spec = spec.toEntry.map criteria.push := by
  cases spec with
  | raw sql => rfl
  | predicate column operator json alternative =>
      simp only [addCriterion, CriterionSpec.toEntry, Criteria.pushCondition]
      cases Operand.ofJson json with
      | error fault => rfl
      | ok operand =>
          simp only [Except.mapError, bind, Except.bind]
          cases Relation.ofKeyword column operator operand <;> rfl

/-- Criteria are the entries of the conditions, one for each, by induction on the conditions. -/
theorem toCriteria_eq (specs : List CriterionSpec)
    : toCriteria specs = (specs.mapM CriterionSpec.toEntry).map Criteria.mk := by
  have added (front : List Entry)
      : specs.foldlM addCriterion ⟨front⟩
        = (specs.mapM CriterionSpec.toEntry).map fun entries => ⟨front ++ entries⟩ := by
    induction specs generalizing front with
    | nil => simp [pure, Except.pure, Except.map]
    | cons spec rest ih =>
        rw [List.foldlM_cons, List.mapM_cons, addCriterion_eq]
        cases spec.toEntry with
        | error fault => rfl
        | ok entry =>
            refine (ih (front ++ [entry])).trans ?_
            cases rest.mapM CriterionSpec.toEntry with
            | error fault => rfl
            | ok entries => exact congrArg (Except.ok ∘ Criteria.mk) (List.append_cons ..).symm
  exact added []

-----------------------------------------------------------------------------------------
-- Documents
-----------------------------------------------------------------------------------------

/-- The values and the criteria of a query come from the passes over the document. -/
theorem toQuery_ok (ok : document.toQuery binder = .ok query)
    : ∃ values,
        document.values.mapM toAssignment = .ok values
        ∧ query.values = OrderedMap.ofList values
        ∧ document.criteria.mapM CriterionSpec.toEntry = .ok query.criteria.entries
        ∧ document.having.mapM CriterionSpec.toEntry = .ok query.having.entries := by
  simp only [toQuery, toCriteria_eq, bind_eq_ok_iff, map_eq_ok_iff, mapError_eq_ok_iff] at ok
  obtain ⟨values, assigned, _, _, _, ⟨entries, criteria, rfl⟩, _, ⟨groups, having, rfl⟩, same⟩ := ok
  obtain rfl := Except.ok.inj same
  exact ⟨values, assigned, rfl, criteria, having⟩

theorem toAssignment_eq_ok_iff {member : String × Json} {pair : String × Value}
    : toAssignment member = .ok pair
      ↔ pair.1 = member.1 ∧ Value.ofJson member.2 = .ok pair.2 := by
  simp only [toAssignment, bind_eq_ok_iff, mapError_eq_ok_iff]
  constructor
  · rintro ⟨value, isValue, same⟩
    obtain rfl := Except.ok.inj same
    exact ⟨rfl, isValue⟩
  · rintro ⟨column, isValue⟩
    exact ⟨pair.2, isValue, congrArg Except.ok (Prod.ext column.symm rfl)⟩

end Document

end SqlCompiler
