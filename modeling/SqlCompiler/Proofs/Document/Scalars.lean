import SqlCompiler.Proofs.Document.Passes
import SqlCompiler.Proofs.OrderedMap
import SqlCompiler.Proofs.Statement.Payload

/-! What a document says with scalars is bound and nothing else: documents that differ in the
scalars that stand as values are refused for one reason, or are compiled to one text with one
list of placeholders.
-/

namespace SqlCompiler

-----------------------------------------------------------------------------------------
-- Documents without scalars
-----------------------------------------------------------------------------------------

/-- Forgets which scalar a JSON value is. -/
def Json.eraseScalar : Json → Json
  | array items => array items
  | object members => object members
  | _ => null

/-- Forgets which scalar a JSON value is, or which scalars are in a list. -/
def Json.withoutScalars : Json → Json
  | array items => array (items.map eraseScalar)
  | json => json.eraseScalar

def CriterionSpec.withoutScalars : CriterionSpec → CriterionSpec
  | predicate column operator operand alternative =>
      predicate column operator operand.withoutScalars alternative
  | raw sql => raw sql

/-- The document without the scalars that it gives as values of columns and as operands. -/
def Document.withoutScalars (document : Document) : Document :=
  { document with
    values := document.values.map (Prod.map id Json.withoutScalars)
    criteria := document.criteria.map CriterionSpec.withoutScalars
    having := document.having.map CriterionSpec.withoutScalars }

-----------------------------------------------------------------------------------------
-- Values and operands
-----------------------------------------------------------------------------------------

def Relabelling.operand (r : Relabelling) : Operand → Operand
  | .single value => .single (r.value value)
  | .list values => .list (values.map r.value)

/-- Forgetting what is bound leaves all of a query but its values and criteria. -/
theorem Relabelling.payloads_query (query : Query)
    : payloads.query query
      = { query with
          values := query.values.map (Prod.map id payloads.value)
          criteria := payloads.criteria query.criteria
          having := payloads.criteria query.having } := by
  have rename : payloads.rename = id := rfl
  have column : payloads.column = id := by
    funext ⟨expr, columnAlias⟩
    cases expr <;> simp [Relabelling.column, Relabelling.expr, rename]
  have join : payloads.join = id := by
    funext join
    simp [Relabelling.join, rename]
  simp only [Relabelling.query, column, join, rename, id_eq, List.map_id, Option.map_id_fun,
    List.map_id_fun']
  rfl

/-- If translating what is left of an element yields what is left of its translation, then so it
is for lists.
-/
theorem mapM_map_commutes {α β ε : Type} {translate : α → Except ε β} {reduce : α → α}
    {forget : β → β} (commutes : ∀ a, translate (reduce a) = (translate a).map forget)
    (as : List α)
    : (as.map reduce).mapM translate = (as.mapM translate).map (List.map forget) := by
  rw [List.mapM_map, ← Relabelling.mapM_map]
  congr 1
  exact funext commutes

/-- Whatever a scalar is, it is bound. -/
theorem Value.ofJson_eraseScalar (json : Json)
    : Value.ofJson json.eraseScalar
      = (Value.ofJson json).map Relabelling.payloads.value := by
  cases json with
  | object members =>
      simp only [Json.eraseScalar]
      unfold Value.ofJson
      split <;> simp_all [Except.map, Relabelling.value]
  | _ => rfl

theorem Value.ofJson_withoutScalars (json : Json)
    : Value.ofJson json.withoutScalars
      = (Value.ofJson json).map Relabelling.payloads.value := by
  cases json with
  | object members => exact Value.ofJson_eraseScalar (.object members)
  | _ => rfl

/-- A list of values stays a list of as many values. -/
theorem Operand.ofJson_withoutScalars (json : Json)
    : Operand.ofJson json.withoutScalars
      = (Operand.ofJson json).map Relabelling.payloads.operand := by
  cases json with
  | array items =>
      simp only [Json.withoutScalars, Operand.ofJson]
      rw [mapM_map_commutes Value.ofJson_eraseScalar]
      cases items.mapM Value.ofJson <;> rfl
  | object members =>
      change (Value.ofJson (Json.object members).eraseScalar).map Operand.single
        = ((Value.ofJson (.object members)).map Operand.single).map _
      rw [Value.ofJson_eraseScalar]
      cases Value.ofJson (.object members) <;> rfl
  | _ => rfl

-----------------------------------------------------------------------------------------
-- Conditions
-----------------------------------------------------------------------------------------

theorem Relation.scalar_operand (r : Relabelling) (keyword : String) (operand : Operand)
    : Relation.scalar keyword (r.operand operand)
      = (Relation.scalar keyword operand).map r.value := by
  rcases operand with value | (- | ⟨value, - | ⟨next, rest⟩⟩)
  · rfl
  · rfl
  · rfl
  · simp [Relation.scalar, Relabelling.operand, Except.map]

theorem Relabelling.values_operand (r : Relabelling) (operand : Operand)
    : (r.operand operand).values = operand.values.map r.value := by
  cases operand <;> rfl

/-- A keyword asks for one relation whatever the values are, by cases on the operator. -/
theorem Relation.ofOperator_operand (r : Relabelling) (column keyword : String)
    (operand : Operand) (operator : Operator)
    : Relation.ofOperator column keyword (r.operand operand) operator
      = (Relation.ofOperator column keyword operand operator).map r.relation := by
  cases operator with
  | equals => cases operand <;> rfl
  | differs => cases operand <;> rfl
  | compare op =>
      simp only [Relation.ofOperator, Relation.scalar_operand]
      cases Relation.scalar keyword operand <;> rfl
  | like =>
      simp only [Relation.ofOperator, Relation.scalar_operand]
      cases Relation.scalar keyword operand <;> rfl
  | isIn => simp [Relation.ofOperator, Relabelling.values_operand, Except.map, Relabelling.relation]
  | notIn =>
      simp [Relation.ofOperator, Relabelling.values_operand, Except.map, Relabelling.relation]
  | between =>
      simp only [Relation.ofOperator, Relabelling.values_operand]
      rcases operand.values with - | ⟨low, - | ⟨high, - | ⟨next, rest⟩⟩⟩
      · rfl
      · rfl
      · rfl
      · simp [Except.map]
  | isNull => rfl
  | isNotNull => rfl

theorem Relation.ofKeyword_operand (r : Relabelling) (column keyword : String)
    (operand : Operand)
    : Relation.ofKeyword column keyword (r.operand operand)
      = (Relation.ofKeyword column keyword operand).map r.relation := by
  unfold Relation.ofKeyword
  cases Operator.ofKeyword? keyword with
  | none => rfl
  | some operator => exact Relation.ofOperator_operand r column _ operand operator

theorem CriterionSpec.toEntry_withoutScalars (spec : CriterionSpec)
    : spec.withoutScalars.toEntry = spec.toEntry.map Relabelling.payloads.entry := by
  cases spec with
  | raw sql => rfl
  | predicate column operator json alternative =>
      simp only [withoutScalars, toEntry, Operand.ofJson_withoutScalars]
      cases Operand.ofJson json with
      | error fault => rfl
      | ok operand =>
          simp only [Except.map, Except.mapError, bind, Except.bind, Relation.ofKeyword_operand]
          cases Relation.ofKeyword column operator operand <;> rfl

namespace Document

theorem toCriteria_withoutScalars (specs : List CriterionSpec)
    : toCriteria (specs.map CriterionSpec.withoutScalars)
      = (toCriteria specs).map Relabelling.payloads.criteria := by
  rw [toCriteria_eq, toCriteria_eq, mapM_map_commutes CriterionSpec.toEntry_withoutScalars]
  cases specs.mapM CriterionSpec.toEntry <;> rfl

-----------------------------------------------------------------------------------------
-- Documents
-----------------------------------------------------------------------------------------

theorem toAssignment_withoutScalars (member : String × Json)
    : toAssignment (Prod.map id Json.withoutScalars member)
      = (toAssignment member).map (Prod.map id Relabelling.payloads.value) := by
  simp only [toAssignment, Prod.map, Value.ofJson_withoutScalars]
  cases Value.ofJson member.2 <;> rfl

/-- A document without its scalars describes the query without what they bind, and is refused
for the same reason.
-/
theorem toQuery_withoutScalars (document : Document) (binder : Binder)
    : document.withoutScalars.toQuery binder
      = (document.toQuery binder).map Relabelling.payloads.query := by
  simp only [toQuery, withoutScalars, mapM_map_commutes toAssignment_withoutScalars,
    toCriteria_withoutScalars]
  cases document.values.mapM toAssignment with
  | error error => rfl
  | ok values =>
  cases document.joins.mapM toJoin with
  | error error => rfl
  | ok joins =>
  cases toCriteria document.criteria with
  | error error => rfl
  | ok criteria =>
  cases toCriteria document.having with
  | error error => rfl
  | ok having =>
    refine congrArg Except.ok ?_
    rw [Relabelling.payloads_query]
    simp [OrderedMap.map_ofList]

/-- The scalars of a document have no say in what becomes of it: documents that differ in scalars
alone are refused for one reason, or describe queries of which every statement in every dialect
is refused for one reason or has one text and one list of placeholders.
-/
theorem compile_scalars {left right : Document}
    (same : left.withoutScalars = right.withoutScalars) (binder : Binder)
    : (∃ error,
        left.toQuery binder = .error error ∧ right.toQuery binder = .error error)
      ∨ ∃ leftQuery rightQuery,
          left.toQuery binder = .ok leftQuery
          ∧ right.toQuery binder = .ok rightQuery
          ∧ ∀ dialect kind,
              let compile (query : Query) := ((Compiler.forDialect dialect).compile kind query).1
              (compile leftQuery).map Compiled.withoutPayloads
                = (compile rightQuery).map Compiled.withoutPayloads := by
  have erased
      : (left.toQuery binder).map Relabelling.payloads.query
        = (right.toQuery binder).map Relabelling.payloads.query := by
    rw [← toQuery_withoutScalars, ← toQuery_withoutScalars, same]
  refine (outcomes_of_map_eq erased).imp_right ?_
  rintro ⟨leftQuery, rightQuery, isLeft, isRight, queries⟩
  refine ⟨leftQuery, rightQuery, isLeft, isRight, ?_⟩
  intro dialect kind compile
  have sameQueries : leftQuery.withoutPayloads = rightQuery.withoutPayloads :=
    congrArg (fun query : Query => { query with binder := {} }) queries
  have sameBinder := congrArg Query.binder queries
  change leftQuery.binder = rightQuery.binder at sameBinder
  simp only [compile]
  rw [Compiler.compile_withoutPayloads, Compiler.compile_withoutPayloads,
    Compiler.template_payloads sameQueries, sameBinder]

/-- A text that looks like SQL, one that looks like a placeholder, a truth value and a number
trade places with others; the list of two values stays one of two, and so does the fragment.
-/
theorem compile_scalars_hostile
    : let document (assigned listed low high : Json) : Document :=
        { table := "t"
          values := [("a", assigned), ("b", .object [("raw", .string "NOW()")])]
          criteria :=
            [.predicate "c" "=" (.array [listed, .null]) false,
              .predicate "d" "between" (.array [low, high]) true]
          limit := .number (.integer 5) }
      let left :=
        document (.string "1'; DROP TABLE t --") .null (.bool true) (.number (.integer 9))
      let right := document .null (.string "a, b") (.string ":db_prep_1") (.string "raw")
      let compile (query : Query) := ((Compiler.forDialect .mysql).compile .update query).1
      left.withoutScalars = right.withoutScalars
      ∧ ∃ leftQuery rightQuery,
          left.toQuery {} = .ok leftQuery
          ∧ right.toQuery {} = .ok rightQuery
          ∧ (compile leftQuery).map Compiled.withoutPayloads
            = (compile rightQuery).map Compiled.withoutPayloads
          ∧ (compile leftQuery).map Compiled.withoutPayloads
            = .ok
                ("UPDATE \x60t\x60 SET \x60a\x60 = :db_prep_1, \x60b\x60 = NOW()"
                  ++ " WHERE \x60c\x60 IN ( :db_prep_2, :db_prep_3 )"
                  ++ " OR \x60d\x60 BETWEEN :db_prep_4 AND :db_prep_5 LIMIT 5",
                [":db_prep_1", ":db_prep_2", ":db_prep_3", ":db_prep_4", ":db_prep_5"]) := by
  intro document left right compile
  have same : left.withoutScalars = right.withoutScalars := rfl
  have accepted : left.toQuery {} = .ok ((left.toQuery {}).toOption.getD {}) := by
    decide +kernel
  rcases compile_scalars same {} with
    ⟨error, refused, -⟩ | ⟨leftQuery, rightQuery, isLeft, isRight, alike⟩
  · cases refused.symm.trans accepted
  · refine ⟨same, leftQuery, rightQuery, isLeft, isRight, alike .mysql .update, ?_⟩
    obtain rfl := Except.ok.inj (isLeft.symm.trans accepted)
    decide +kernel

end Document

end SqlCompiler
