import SqlCompiler.Proofs.Document.Passes
import SqlCompiler.Proofs.Statement.Refusal

/-! What is wrong with a document, in the order in which its parts are looked at. A document is
refused for its first offence, and only for an offence.
-/

namespace SqlCompiler

-----------------------------------------------------------------------------------------
-- Values and operands in documents
-----------------------------------------------------------------------------------------

namespace Json

/-- A value of a statement: a scalar, or an object whose only member is a `raw` text. -/
def IsValue : Json → Prop
  | array _ => False
  | object members => ∃ sql, members = [("raw", .string sql)]
  | _ => True

/-- A value, or a list of values. -/
def IsOperand : Json → Prop
  | array items => ∀ item ∈ items, item.IsValue
  | json => json.IsValue

/-- What is wrong with a value. -/
def valueFault? : Json → Option ValueFault
  | array _ => some .nestedList
  | object [("raw", .string _)] => none
  | object _ => some .malformedObject
  | _ => none

/-- What is wrong with an operand; of a list the first element with a fault counts. -/
def operandFault? : Json → Option ValueFault
  | array items => items.findSome? valueFault?
  | json => json.valueFault?

theorem valueFault?_eq_none_iff {json : Json} : json.valueFault? = none ↔ json.IsValue := by
  cases json with
  | object members =>
      rw [IsValue]
      unfold valueFault?
      split <;> simp_all
  | _ => simp [valueFault?, IsValue]

theorem operandFault?_eq_none_iff {json : Json}
    : json.operandFault? = none ↔ json.IsOperand := by
  cases json with
  | array items => simp [operandFault?, IsOperand, valueFault?_eq_none_iff]
  | object members => exact @valueFault?_eq_none_iff (.object members)
  | _ => simp [operandFault?, IsOperand, valueFault?, IsValue]

end Json

-----------------------------------------------------------------------------------------
-- Offences
-----------------------------------------------------------------------------------------

namespace JoinSpec

/-- The kinds of joins, in lower case. -/
def kindNames : List String := ["inner", "left", "right", "cross"]

/-- The join has a kind that is, in lower case, none of them. -/
def HasUnknownKind (spec : JoinSpec) : Prop :=
  ∃ name,
    spec.kind = some name
    ∧ String.ofList (Text.lower name.toList) ∉ kindNames

/-- The unknown kind, in lower case. -/
def unknownKind? (spec : JoinSpec) : Option String :=
  (spec.kind.map fun name => String.ofList (Text.lower name.toList)).filter (· ∉ kindNames)

theorem unknownKind?_eq_none_iff {spec : JoinSpec}
    : spec.unknownKind? = none ↔ ¬ spec.HasUnknownKind := by
  rw [unknownKind?, HasUnknownKind, Option.filter_eq_none_iff]
  simp

end JoinSpec

namespace CriterionSpec

/-- A condition that has a faulty operand, or an operator that does not go with its operand. -/
def IsRefused : CriterionSpec → Prop
  | predicate column operator json _ =>
      ¬ json.IsOperand
      ∨ ∃ operand error,
          Operand.ofJson json = .ok operand
          ∧ Relation.ofKeyword column operator operand = .error error
  | raw _ => False

/-- What is said of a condition that is refused, from the outside in. -/
def offence? : CriterionSpec → Option (List String)
  | predicate column operator json _ =>
      -- a faulty operand comes before an operator that does not go with it
      match json.operandFault?, Operand.ofJson json with
      | some fault, _ => some ["operand for column '" ++ column ++ "'", fault.message]
      | none, .ok operand =>
          match Relation.ofKeyword column operator operand with
          | .error error => some [error.message]
          | .ok _ => none
      | none, .error _ => none
  | raw _ => none

end CriterionSpec

/-- All offences of a document, each as what is said of it from the outside in. -/
def Document.offences (document : Document) : List (List String) :=
  (document.values.filterMap fun (column, json) =>
    json.valueFault?.map fun fault => ["value for column '" ++ column ++ "'", fault.message])
  ++ (document.joins.filterMap fun spec =>
    spec.unknownKind?.map fun name => ["unknown join kind '" ++ name ++ "'"])
  ++ (document.criteria.filterMap fun spec => spec.offence?.map ("in \"where\"" :: ·))
  ++ (document.having.filterMap fun spec => spec.offence?.map ("in \"having\"" :: ·))

-----------------------------------------------------------------------------------------
-- Causes of refusals
-----------------------------------------------------------------------------------------

section

variable {ε α β : Type}

/-- The error, if that is the outcome. -/
def cause? : Except ε α → Option ε
  | .error error => some error
  | .ok _ => none

theorem cause?_eq_some_iff {outcome : Except ε α} {error : ε}
    : cause? outcome = some error ↔ outcome = .error error := by
  cases outcome <;> simp [cause?]

theorem cause?_map (f : α → β) (outcome : Except ε α)
    : cause? (outcome.map f) = cause? outcome := by
  cases outcome <;> rfl

/-- A list is refused for the reason of the first member that is. -/
theorem cause?_mapM (f : α → Except ε β) (as : List α)
    : cause? (as.mapM f) = as.findSome? fun a => cause? (f a) := by
  refine Option.ext fun error => ?_
  rw [cause?_eq_some_iff]
  exact mapM_eq_error_iff fun _ _ => cause?_eq_some_iff.symm

end

theorem Value.cause?_ofJson (json : Json) : cause? (Value.ofJson json) = json.valueFault? := by
  cases json with
  | object members =>
      unfold Value.ofJson Json.valueFault?
      split <;> simp_all [cause?]
  | _ => rfl

theorem Operand.cause?_ofJson (json : Json)
    : cause? (Operand.ofJson json) = json.operandFault? := by
  cases json with
  | array items =>
      rw [Operand.ofJson, cause?_map, cause?_mapM, Json.operandFault?]
      exact congrArg (items.findSome? ·) (funext Value.cause?_ofJson)
  | object members =>
      exact (cause?_map Operand.single _).trans (Value.cause?_ofJson (.object members))
  | _ => rfl

namespace CriterionSpec

/-- A condition is refused for its offence. -/
theorem map_chain_cause?_toEntry (spec : CriterionSpec)
    : (cause? spec.toEntry).map CriterionFault.chain = spec.offence? := by
  cases spec with
  | raw sql => rfl
  | predicate column operator json alternative =>
      rw [offence?, ← Operand.cause?_ofJson, toEntry]
      cases Operand.ofJson json with
      | error fault => rfl
      | ok operand =>
          simp only [Except.mapError, bind, Except.bind, cause?]
          cases Relation.ofKeyword column operator operand <;> rfl

theorem offence?_eq_none_iff {spec : CriterionSpec}
    : spec.offence? = none ↔ ¬ spec.IsRefused := by
  cases spec with
  | raw sql => simp [offence?, IsRefused]
  | predicate column operator json alternative =>
      rw [IsRefused, ← Json.operandFault?_eq_none_iff, offence?, ← Operand.cause?_ofJson]
      cases Operand.ofJson json with
      | error fault => simp [cause?]
      | ok operand =>
          cases related : Relation.ofKeyword column operator operand <;> simp [cause?, related]

end CriterionSpec

namespace Document

/-- Criteria are refused for the offence of the first condition that has one. -/
theorem map_chain_cause?_toCriteria (specs : List CriterionSpec)
    : (cause? (toCriteria specs)).map CriterionFault.chain
      = specs.findSome? CriterionSpec.offence? := by
  rw [toCriteria_eq, cause?_map, cause?_mapM, List.map_findSome?]
  exact congrArg (specs.findSome? ·) (funext CriterionSpec.map_chain_cause?_toEntry)

theorem cause?_toAssignment (member : String × Json)
    : cause? (toAssignment member) = member.2.valueFault?.map (.value member.1) := by
  rw [← Value.cause?_ofJson, toAssignment]
  cases Value.ofJson member.2 <;> rfl

theorem cause?_joinKind (spec : JoinSpec)
    : cause? (joinKind spec.kind) = spec.unknownKind?.map .unknownJoinKind := by
  rw [JoinSpec.unknownKind?]
  cases spec.kind with
  | none => rfl
  | some name =>
      simp only [joinKind, Option.map_some]
      generalize String.ofList (Text.lower name.toList) = name
      split <;> simp_all [cause?, Option.filter, JoinSpec.kindNames]

theorem cause?_toJoin (spec : JoinSpec)
    : cause? (toJoin spec) = spec.unknownKind?.map .unknownJoinKind := by
  rw [← cause?_joinKind, toJoin]
  cases joinKind spec.kind <;> rfl

/-- The passes are made one after the other, and the first that fails decides. -/
theorem cause?_toQuery (document : Document) (binder : Binder)
    : cause? (document.toQuery binder)
      = (((cause? (document.values.mapM toAssignment)).or
          (cause? (document.joins.mapM toJoin))).or
          ((cause? (toCriteria document.criteria)).map .criteria)).or
          ((cause? (toCriteria document.having)).map .having) := by
  rw [toQuery]
  cases document.values.mapM toAssignment with
  | error error => rfl
  | ok values =>
  cases document.joins.mapM toJoin with
  | error error => rfl
  | ok joins =>
  cases toCriteria document.criteria with
  | error error => rfl
  | ok criteria =>
  cases toCriteria document.having <;> rfl

/-- What is said of a document that is refused is said of its first offence. -/
theorem map_chain_cause?_toQuery (document : Document) (binder : Binder)
    : (cause? (document.toQuery binder)).map DocumentError.chain = document.offences.head? := by
  have criteria (specs : List CriterionSpec) (place : String)
      : (cause? (toCriteria specs)).map (fun fault => place :: fault.chain)
        = specs.findSome? fun spec => spec.offence?.map (place :: ·) := by
    have chain := congrArg (Option.map (place :: ·)) (map_chain_cause?_toCriteria specs)
    rwa [Option.map_map, List.map_findSome?] at chain
  rw [cause?_toQuery, offences]
  simp only [List.head?_append, List.head?_filterMap, ← criteria, cause?_mapM, Option.map_or,
    List.map_findSome?, Option.map_map, Function.comp_def, cause?_toAssignment, cause?_toJoin,
    DocumentError.chain]

/-- A document without offences has all its parts in order. -/
theorem offences_eq_nil_iff {document : Document}
    : document.offences = []
      ↔ (∀ member ∈ document.values, member.2.IsValue)
        ∧ (∀ join ∈ document.joins, ¬ join.HasUnknownKind)
        ∧ (∀ spec ∈ document.criteria, ¬ spec.IsRefused)
        ∧ ∀ spec ∈ document.having, ¬ spec.IsRefused := by
  simp only [offences, List.append_eq_nil_iff, List.filterMap_eq_nil_iff, Option.map_eq_none_iff,
    Json.valueFault?_eq_none_iff, JoinSpec.unknownKind?_eq_none_iff,
    CriterionSpec.offence?_eq_none_iff, and_assoc]

end Document

end SqlCompiler
