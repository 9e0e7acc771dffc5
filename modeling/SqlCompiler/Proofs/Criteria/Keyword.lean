import SqlCompiler.Criteria.Basic
import SqlCompiler.Proofs.Text.Phrase

/-! Conditions by keyword are refused for two reasons: the keyword is none, or the operand has not
the number of values that the keyword takes. A refusal leaves criteria as they were, and otherwise
one predicate is added behind all others.
-/

namespace SqlCompiler

open Text

-----------------------------------------------------------------------------------------
-- The table of keywords
-----------------------------------------------------------------------------------------

namespace Operator

/-- The keywords that take one value, in normal form. -/
def scalarKeywords : List String :=
  ["<", "LT", "<=", "LE", ">", "GT", ">=", "GE", "LIKE"]

/-- All keywords, in normal form. -/
def knownKeywords : List String :=
  ["=", "==", "EQ", "!=", "<>", "NE"] ++ scalarKeywords
    ++ ["IN", "NOT IN", "NOTIN", "IS NULL", "ISNULL", "IS NOT NULL", "NOTNULL", "BETWEEN"]

/-- The operator takes one value. -/
def isScalar : Operator → Bool
  | compare _ | like => true
  | equals | differs | isIn | notIn | between | isNull | isNotNull => false

/-- What the table says of a keyword. -/
theorem of_mem_keywords {keyword : String} {operator : Operator}
    (listed : (keyword, operator) ∈ keywords)
    : keyword ∈ knownKeywords
      ∧ (keyword ∈ scalarKeywords ↔ operator.isScalar = true)
      ∧ (keyword = "BETWEEN" ↔ operator = between) := by
  have table
      : ∀ entry ∈ keywords,
          entry.1 ∈ knownKeywords
          ∧ (entry.1 ∈ scalarKeywords ↔ entry.2.isScalar = true)
          ∧ (entry.1 = "BETWEEN" ↔ entry.2 = between) := by
    decide +kernel
  exact table _ listed

theorem ofKeyword?_eq_none_iff {keyword : String}
    : ofKeyword? keyword = none ↔ normalize keyword ∉ knownKeywords := by
  have known : knownKeywords = keywords.map (·.1) := by decide +kernel
  rw [ofKeyword?, List.lookup_eq_none_iff, known, List.mem_map]
  constructor
  · rintro differs ⟨entry, listed, same⟩
    simpa [same] using differs entry listed
  · intro unlisted entry listed
    exact bne_iff_ne.mpr fun same => unlisted ⟨entry, listed, same.symm⟩

theorem mem_keywords_of_ofKeyword? {keyword : String} {operator : Operator}
    (found : ofKeyword? keyword = some operator)
    : (normalize keyword, operator) ∈ keywords := by
  obtain ⟨before, after, parts, _⟩ := List.lookup_eq_some_iff.mp found
  simp [parts]

end Operator

-----------------------------------------------------------------------------------------
-- Refusals
-----------------------------------------------------------------------------------------

namespace Relation

theorem scalar_eq_error_iff {keyword : String} {operand : Operand} {error : CompileError}
    : scalar keyword operand = .error error
      ↔ ∃ values,
          operand = .list values
          ∧ values.length ≠ 1
          ∧ error = .listForScalar keyword values.length := by
  rcases operand with value | (_ | ⟨first, _ | ⟨second, rest⟩⟩) <;>
    simp [scalar, eq_comm]

/-- An operator refuses operands with the wrong number of values, by cases on the operator. -/
theorem ofOperator_eq_error_iff {column keyword : String} {operand : Operand}
    {operator : Operator} {error : CompileError}
    : ofOperator column keyword operand operator = .error error
      ↔ (operator.isScalar = true
          ∧ ∃ values,
              operand = .list values
              ∧ values.length ≠ 1
              ∧ error = .listForScalar keyword values.length)
        ∨ (operator = .between
          ∧ operand.values.length ≠ 2
          ∧ error = .malformedBetween column operand.values.length) := by
  have map_eq_error_iff {f : Value → Relation}
      : (scalar keyword operand).map f = .error error ↔ scalar keyword operand = .error error := by
    cases scalar keyword operand <;> simp [Except.map]
  cases operator with
  | compare op => simp [ofOperator, map_eq_error_iff, scalar_eq_error_iff, Operator.isScalar]
  | like => simp [ofOperator, map_eq_error_iff, scalar_eq_error_iff, Operator.isScalar]
  | between =>
      rcases values : operand.values with _ | ⟨low, _ | ⟨high, _ | ⟨next, rest⟩⟩⟩ <;>
        simp [ofOperator, values, Operator.isScalar, eq_comm]
  | equals | differs | isIn | notIn | isNull | isNotNull =>
      simp [ofOperator, Operator.isScalar]

/-- A keyword is refused if it is not in the table, and otherwise for its operand. -/
theorem ofKeyword_eq_error_iff {column keyword : String} {operand : Operand}
    {error : CompileError}
    : ofKeyword column keyword operand = .error error
      ↔ (Operator.normalize keyword ∉ Operator.knownKeywords
          ∧ error = .unknownRelation keyword)
        ∨ (Operator.normalize keyword ∈ Operator.scalarKeywords
          ∧ ∃ values,
              operand = .list values
              ∧ values.length ≠ 1
              ∧ error = .listForScalar (Operator.normalize keyword) values.length)
        ∨ (Operator.normalize keyword = "BETWEEN"
          ∧ operand.values.length ≠ 2
          ∧ error = .malformedBetween column operand.values.length) := by
  rw [ofKeyword]
  cases found : Operator.ofKeyword? keyword with
  | none =>
      have unknown := Operator.ofKeyword?_eq_none_iff.mp found
      have notScalar : Operator.normalize keyword ∉ Operator.scalarKeywords := fun listed =>
        unknown (by simp [Operator.knownKeywords, listed])
      have notBetween : Operator.normalize keyword ≠ "BETWEEN" := fun same =>
        unknown (by rw [same]; decide)
      simp [unknown, notScalar, notBetween, eq_comm]
  | some operator =>
      obtain ⟨known, isScalar, isBetween⟩ :=
        Operator.of_mem_keywords (Operator.mem_keywords_of_ofKeyword? found)
      simp only [ofOperator_eq_error_iff, known, isScalar, isBetween, not_true_eq_false,
        false_and, false_or]

end Relation

-----------------------------------------------------------------------------------------
-- Conditions that are added in place
-----------------------------------------------------------------------------------------

namespace Criteria

/-- Adds the predicate that a keyword and an operand describe to the criteria that are the state. -/
def addCondition (column keyword : String) (operand : Operand) (connector : Connector)
    : ExceptT CompileError (StateM Criteria) Unit := do
  let relation ← Relation.ofKeyword column keyword operand
  modify fun criteria => criteria.pushPredicate { column, relation, connector }

/-- In place or not, a condition is refused alike, and the criteria after it are the same. -/
theorem run_addCondition (column keyword : String) (operand : Operand) (connector : Connector)
    (criteria : Criteria)
    : (addCondition column keyword operand connector).run.run criteria
      = match criteria.pushCondition column keyword operand connector with
        | .error error => (.error error, criteria)
        | .ok next => (.ok (), next) := by
  cases made : Relation.ofKeyword column keyword operand <;>
    simp only [addCondition, pushCondition, made] <;> rfl

/-- A keyword is refused if its words, in upper case and with one space in between, are not in the
table, or if the operand has not one value where a comparison takes one, or not two where `BETWEEN`
takes two. A refusal leaves criteria as they were; otherwise one predicate is added to them, behind
the entries they had.
-/
theorem ofKeyword_refuses (column keyword : String) (operand : Operand)
    : ∃ words,
        Phrase words keyword.toList
        ∧ let normal := String.ofList (upper (List.intercalate [' '] words))
          (∀ error,
            Relation.ofKeyword column keyword operand = .error error
            ↔ (normal ∉ Operator.knownKeywords ∧ error = .unknownRelation keyword)
              ∨ (normal ∈ Operator.scalarKeywords
                ∧ ∃ values,
                    operand = .list values
                    ∧ values.length ≠ 1
                    ∧ error = .listForScalar normal values.length)
              ∨ (normal = "BETWEEN"
                ∧ operand.values.length ≠ 2
                ∧ error = .malformedBetween column operand.values.length))
          ∧ ∀ (criteria : Criteria) (connector : Connector),
              let pushed := criteria.pushCondition column keyword operand connector
              let added := (addCondition column keyword operand connector).run.run criteria
              match Relation.ofKeyword column keyword operand with
              | .error error => pushed = .error error ∧ added = (.error error, criteria)
              | .ok relation =>
                  let next : Criteria :=
                    ⟨criteria.entries ++ [.predicate { column, relation, connector }]⟩
                  pushed = .ok next ∧ added = (.ok (), next) := by
  refine ⟨Text.words keyword.toList, phrase_words _, fun error => ?refusals, ?effect⟩
  case refusals => exact Relation.ofKeyword_eq_error_iff
  case effect =>
    intro criteria connector pushed added
    simp only [pushed, added, run_addCondition, pushCondition]
    cases Relation.ofKeyword column keyword operand <;> exact ⟨rfl, rfl⟩

end Criteria

end SqlCompiler
