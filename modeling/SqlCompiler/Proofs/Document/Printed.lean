import SqlCompiler.CommandLine.Run
import SqlCompiler.Proofs.Document.Translation
import SqlCompiler.Proofs.Json.Reading
import SqlCompiler.Proofs.Statement.Bound

/-! What becomes of the scalars of a document. Each one that a statement binds has the JSON form in
which it was read, but for the integers that need all sixty-four bits: these are rounded.
-/

namespace SqlCompiler

-----------------------------------------------------------------------------------------
-- The scalars of a document
-----------------------------------------------------------------------------------------

/-- How a scalar is printed once it has been bound: as it is or, if it is an integer that needs all
sixty-four bits, as the nearest binary64 number.
-/
inductive Json.PrintedAs : Json → Json → Prop
  | kept {scalar : Json} (fits : ∀ n : Int, scalar = .number (.integer n) → n < 2 ^ 63)
      : PrintedAs scalar scalar
  | rounded {n : Int} (lower : 2 ^ 63 ≤ n) (upper : n < 2 ^ 64)
      : PrintedAs (.number (.integer n)) (.number (.float (.ofInt n)))

/-- The JSON form of a scalar that has been bound. -/
def Json.printed : Json → Json
  | number (.integer n) =>
      if n < 2 ^ 63 then .number (.integer n) else .number (.float (.ofInt n))
  | json => json

/-- The keyword asks for a test for null, which is written without its operand. -/
def Operator.testsNull (keyword : String) : Bool :=
  match ofKeyword? keyword with
  | some isNull => true
  | some isNotNull => true
  | _ => false

/-- The scalars that a condition compares its column with. -/
def CriterionSpec.scalars : CriterionSpec → List Json
  | predicate _ operator operand _ =>
      if Operator.testsNull operator then [] else operand.scalars
  | raw _ => []

namespace Document

/-- The scalars that a document gives as values of columns. -/
def assignedScalars (document : Document) : List Json :=
  document.values.filterMap (·.2.scalar?)

/-- The scalars that a statement of a kind binds. -/
def scalars (document : Document) : StatementKind → List Json
  | .select => (document.criteria ++ document.having).flatMap CriterionSpec.scalars
  | .insert => document.assignedScalars
  | .update => document.assignedScalars ++ document.criteria.flatMap CriterionSpec.scalars
  | .delete => document.criteria.flatMap CriterionSpec.scalars

end Document

-----------------------------------------------------------------------------------------
-- Documents that are read
-----------------------------------------------------------------------------------------

/-- The scalars of a condition are in its operand. -/
theorem CriterionSpec.mem_scalars {column operator : String} {operand : Json} {alternative : Bool}
    {scalar : Json} (member : scalar ∈ (predicate column operator operand alternative).scalars)
    : scalar ∈ operand.scalars := by
  rw [scalars] at member
  split at member
  case isTrue => exact absurd member List.not_mem_nil
  case isFalse => exact member

namespace Document

variable {document : Document} {text : String} {scalar : Json}

/-- The scalars of conditions are as they are read, wherever the conditions stand. -/
theorem isRead_of_optional? {fields : List (String × Json.Tree)} {name : String}
    {specs : List CriterionSpec}
    (read
      : Json.optional? fields name [] (Json.Tree.list? (CriterionSpec.ofTree? itemLevels))
        = some specs)
    (member : scalar ∈ specs.flatMap CriterionSpec.scalars)
    : scalar.IsRead := by
  obtain ⟨spec, listed, inSpec⟩ := List.mem_flatMap.mp member
  rcases optional?_eq_some read with rfl | ⟨tree, isList⟩
  · cases listed
  cases tree with
  | array trees =>
      obtain ⟨tree, isSpec⟩ := Json.exists_of_mem_mapM isList listed
      cases spec with
      | predicate column operator operand alternative =>
          exact (CriterionSpec.isParsed_operand isSpec).isRead_scalars
            (CriterionSpec.mem_scalars inSpec)
      | raw sql => cases inSpec
  | _ => cases isList

theorem isRead_of_mem_assignedScalars (parsed : ofText? text = some document)
    (member : scalar ∈ document.assignedScalars)
    : scalar.IsRead := by
  obtain ⟨pair, listed, isScalar⟩ := List.mem_filterMap.mp member
  obtain ⟨fields, isValues, -, -⟩ := parts_ofText? parsed
  rcases optional?_eq_some isValues with none | ⟨tree, read⟩
  · rw [none] at listed
    cases listed
  · exact (isParsed_of_valueMap? read listed).isRead_scalars
      (Json.mem_scalars_of_scalar? isScalar)

/-- All scalars of a document are as they are read. -/
theorem isRead_of_mem_scalars (parsed : ofText? text = some document) {kind : StatementKind}
    (member : scalar ∈ document.scalars kind)
    : scalar.IsRead := by
  obtain ⟨fields, -, isCriteria, isHaving⟩ := parts_ofText? parsed
  cases kind with
  | select =>
      rw [scalars, List.flatMap_append] at member
      rcases List.mem_append.mp member with criteria | having
      · exact isRead_of_optional? isCriteria criteria
      · exact isRead_of_optional? isHaving having
  | insert => exact isRead_of_mem_assignedScalars parsed member
  | update =>
      rcases List.mem_append.mp member with assigned | criteria
      · exact isRead_of_mem_assignedScalars parsed assigned
      · exact isRead_of_optional? isCriteria criteria
  | delete => exact isRead_of_optional? isCriteria member

end Document

-----------------------------------------------------------------------------------------
-- Values and operands
-----------------------------------------------------------------------------------------

theorem Json.ofSqlValue_float {x : Double} (finite : x.IsFinite)
    : ofSqlValue (.float x) = .number (.float x) := by
  obtain ⟨_, _, _, form⟩ := finite
  simp [ofSqlValue, form]

/-- A number keeps its JSON form if it is a finite one, or an integer of sixty-four bits with a
sign; another integer that is read becomes a finite number.
-/
theorem Value.ofSqlValue_ofNumber {n : Json.Number} (isRead : n.IsRead)
    : Json.ofSqlValue (ofNumber n) = (Json.number n).printed := by
  cases n with
  | float x => exact Json.ofSqlValue_float isRead
  | integer n =>
      obtain ⟨lower, upper⟩ := isRead
      have least : Int64.minValue.toInt = -2 ^ 63 := by decide
      have greatest : Int64.maxValue.toInt = 2 ^ 63 - 1 := by decide
      rw [ofNumber, Json.printed]
      by_cases fits : n < 2 ^ 63
      · have inRange
            : (Int64.minValue.toInt ≤ n && n ≤ Int64.maxValue.toInt) = true := by
          simp only [least, greatest, Bool.and_eq_true, decide_eq_true_eq]
          omega
        rw [if_pos inRange, if_pos fits, Json.ofSqlValue, Int64.toInt_ofInt_of_le lower fits]
      · have outOfRange
            : ¬ (Int64.minValue.toInt ≤ n && n ≤ Int64.maxValue.toInt) = true := by
          simp only [least, greatest, Bool.and_eq_true, decide_eq_true_eq]
          omega
        rw [if_neg outOfRange, if_neg fits]
        exact Json.ofSqlValue_float (Double.isFinite_ofInt (by omega))

/-- A value binds the scalar it comes from, or nothing if it does not come from one. -/
theorem Value.map_ofSqlValue_bound? {json : Json} {value : Value}
    (ok : ofJson json = .ok value)
    (isRead : ∀ scalar, json.scalar? = some scalar → scalar.IsRead)
    : value.bound?.map Json.ofSqlValue = json.scalar?.map Json.printed := by
  cases json with
  | null | bool b | string s =>
      obtain rfl := Except.ok.inj ok
      rfl
  | number n =>
      obtain rfl := Except.ok.inj ok
      exact congrArg some (ofSqlValue_ofNumber (isRead (.number n) rfl))
  | array items => cases ok
  | object members =>
      unfold ofJson at ok
      split at ok
      case h_5 =>
        obtain rfl := Except.ok.inj ok
        rfl
      all_goals simp_all

/-- Lists that are related member by member have the same images under functions that agree on
related members.
-/
theorem filterMap_eq_of_forall₂ {α β γ : Type} {related : α → β → Prop} {f : α → Option γ}
    {g : β → Option γ} {as : List α} {bs : List β} (alike : List.Forall₂ related as bs)
    (agree : ∀ a ∈ as, ∀ b, related a b → f a = g b)
    : as.filterMap f = bs.filterMap g := by
  induction alike with
  | nil => rfl
  | cons head _ ih =>
      obtain ⟨first, agree⟩ := List.forall_mem_cons.mp agree
      rw [List.filterMap_cons, List.filterMap_cons, first _ head, ih agree]

/-- An operand binds the scalars it comes from, in their order. -/
theorem Operand.map_ofSqlValue {json : Json} {operand : Operand}
    (ok : ofJson json = .ok operand) (isRead : ∀ scalar ∈ json.scalars, scalar.IsRead)
    : (operand.values.filterMap Value.bound?).map Json.ofSqlValue
      = json.scalars.map Json.printed := by
  have alone {value : Value} (isValue : Value.ofJson json = .ok value)
      : ([value].filterMap Value.bound?).map Json.ofSqlValue
        = json.scalar?.toList.map Json.printed := by
    have same := Value.map_ofSqlValue_bound? isValue fun scalar isScalar =>
      isRead scalar (Json.mem_scalars_of_scalar? isScalar)
    have lists := congrArg Option.toList same
    simp only [Option.toList_map] at lists
    rw [← lists]
    cases value <;> rfl
  cases json with
  | array items =>
      obtain ⟨values, isValues, rfl⟩ := map_eq_ok_iff.mp ok
      rw [Json.scalars, List.map_filterMap, List.map_filterMap]
      refine (filterMap_eq_of_forall₂ (mapM_eq_ok_iff.mp isValues) ?_).symm
      intro item listed value isValue
      refine (Value.map_ofSqlValue_bound? isValue fun scalar isScalar => ?_).symm
      exact isRead scalar (List.mem_filterMap.mpr ⟨item, listed, isScalar⟩)
  | null | bool _ | number _ | string _ | object _ =>
      simp only [ofJson, map_eq_ok_iff] at ok
      obtain ⟨value, isValue, rfl⟩ := ok
      exact alone isValue

-----------------------------------------------------------------------------------------
-- Conditions and values of columns
-----------------------------------------------------------------------------------------

/-- A relation has the values of its operand, in their order, but a test for null has none. -/
theorem Relation.values_ofKeyword {column operator : String} {operand : Operand}
    {relation : Relation} (ok : ofKeyword column operator operand = .ok relation)
    : relation.values = if Operator.testsNull operator then [] else operand.values := by
  have values_scalar {value : Value}
      (one : scalar (Operator.normalize operator) operand = .ok value)
      : operand.values = [value] := by
    rcases operand with single | (- | ⟨first, - | ⟨next, rest⟩⟩)
    · exact congrArg (fun value => [value]) (Except.ok.inj one)
    · cases one
    · exact congrArg (fun value => [value]) (Except.ok.inj one)
    · cases one
  rw [ofKeyword] at ok
  rw [Operator.testsNull]
  cases found : Operator.ofKeyword? operator with
  | none =>
      rw [found] at ok
      cases ok
  | some asked =>
      rw [found] at ok
      cases asked with
      | equals | differs =>
          obtain rfl := Except.ok.inj ok
          cases operand <;> rfl
      | compare _ | like =>
          obtain ⟨value, one, rfl⟩ := map_eq_ok_iff.mp ok
          exact (values_scalar one).symm
      | isIn | notIn | isNull | isNotNull =>
          obtain rfl := Except.ok.inj ok
          rfl
      | between =>
          simp only [ofOperator] at ok
          split at ok
          case h_1 two =>
            obtain rfl := Except.ok.inj ok
            exact two.symm
          case h_2 => cases ok

/-- A condition binds its scalars. -/
theorem CriterionSpec.map_ofSqlValue {spec : CriterionSpec} {entry : Entry}
    (describes : spec.Describes entry) (isRead : ∀ scalar ∈ spec.scalars, scalar.IsRead)
    : entry.boundValues.map Json.ofSqlValue = spec.scalars.map Json.printed := by
  cases describes with
  | raw sql => rfl
  | predicate isOperand isRelation =>
      rw [scalars] at isRead ⊢
      rw [Entry.boundValues, Relation.boundValues, Relation.values_ofKeyword isRelation]
      split
      case isTrue => rfl
      case isFalse written =>
        rw [if_neg written] at isRead
        exact Operand.map_ofSqlValue isOperand isRead

/-- Conditions bind their scalars, those of each condition in its turn. -/
theorem CriterionSpec.map_ofSqlValue_boundValues {specs : List CriterionSpec} {criteria : Criteria}
    (translated : specs.mapM toEntry = .ok criteria.entries)
    (isRead : ∀ scalar ∈ specs.flatMap scalars, scalar.IsRead)
    : criteria.boundValues.map Json.ofSqlValue = (specs.flatMap scalars).map Json.printed := by
  have alike := (mapM_eq_ok_iff.mp translated).imp fun _ _ => describes_of_toEntry
  clear translated
  rw [Criteria.boundValues]
  generalize criteria.entries = entries at alike
  induction alike with
  | nil => rfl
  | @cons spec entry specs entries head _ ih =>
      simp only [List.flatMap_cons, List.map_append, List.mem_append] at isRead ⊢
      rw [map_ofSqlValue head fun scalar member => isRead scalar (Or.inl member),
        ih fun scalar member => isRead scalar (Or.inr member)]

namespace Document

variable {document : Document} {binder : Binder} {query : Query}

/-- Values of columns bind the scalars they come from. -/
theorem map_ofSqlValue_assignedValues (nodup : (OrderedMap.keys document.values).Nodup)
    (isRead : ∀ scalar ∈ document.assignedScalars, scalar.IsRead)
    (ok : document.toQuery binder = .ok query)
    : query.assignedValues.map Json.ofSqlValue = document.assignedScalars.map Json.printed := by
  rw [Query.assignedValues, assignedScalars, List.map_filterMap, List.map_filterMap]
  refine (filterMap_eq_of_forall₂ (values_ok nodup ok) ?_).symm
  rintro member listed pair ⟨-, isValue⟩
  refine (Value.map_ofSqlValue_bound? isValue fun scalar isScalar => ?_).symm
  exact isRead scalar (List.mem_filterMap.mpr ⟨member, listed, isScalar⟩)

/-- A query binds the scalars of its document. -/
theorem map_ofSqlValue_boundValues {text : String} (parsed : ofText? text = some document)
    (ok : document.toQuery binder = .ok query) (kind : StatementKind)
    : (query.boundValues kind).map Json.ofSqlValue
      = (document.scalars kind).map Json.printed := by
  obtain ⟨_, -, -, criteria, having⟩ := toQuery_ok ok
  have isRead (scalar : Json) (member : scalar ∈ document.scalars kind) : scalar.IsRead :=
    isRead_of_mem_scalars parsed member
  have nodup := nodup_keys_values parsed
  cases kind with
  | select =>
      rw [scalars, List.flatMap_append] at isRead ⊢
      rw [List.forall_mem_append] at isRead
      rw [Query.boundValues, List.map_append, List.map_append,
        CriterionSpec.map_ofSqlValue_boundValues criteria isRead.1,
        CriterionSpec.map_ofSqlValue_boundValues having isRead.2]
  | insert => exact map_ofSqlValue_assignedValues nodup isRead ok
  | update =>
      rw [scalars] at isRead ⊢
      rw [List.forall_mem_append] at isRead
      rw [Query.boundValues, List.map_append, List.map_append,
        map_ofSqlValue_assignedValues nodup isRead.1 ok,
        CriterionSpec.map_ofSqlValue_boundValues criteria isRead.2]
  | delete => exact CriterionSpec.map_ofSqlValue_boundValues criteria isRead

-----------------------------------------------------------------------------------------
-- Statements
-----------------------------------------------------------------------------------------

theorem printedAs_printed {scalar : Json} (isRead : scalar.IsRead)
    : scalar.PrintedAs scalar.printed := by
  cases scalar with
  | number number =>
      cases number with
      | float x => exact .kept nofun
      | integer n =>
          rw [Json.printed]
          split
          case isTrue fits =>
            refine .kept fun _ same => ?_
            cases same
            exact fits
          case isFalse large => exact .rounded (by omega) isRead.2
  | _ => exact .kept nofun

/-- A statement that is compiled from a document binds the scalars that its kind writes, in their
order, and each keeps the JSON form in which it was read. Only an integer that needs all sixty-four
bits does not: it becomes the nearest binary64 number.
-/
theorem compile_printed {text : String} {document : Document} {binder : Binder}
    {query after : Query} {dialect : Dialect} {kind : StatementKind} {compiled : Compiled}
    (parsed : ofText? text = some document)
    (translated : document.toQuery binder = .ok query)
    (ok : (Compiler.forDialect dialect).compile kind query = (.ok compiled, after))
    : List.Forall₂ Json.PrintedAs (document.scalars kind)
        (compiled.bound.map fun binding => Json.ofSqlValue binding.value) := by
  obtain ⟨template, templateOk, -, bound, -⟩ := Compiler.compile_ok ok
  have values : compiled.bound.map (·.value) = query.boundValues kind := by
    rw [bound, Binder.map_value_numbered, Compiler.slotValues_template templateOk]
  have printed
      : compiled.bound.map (fun binding => Json.ofSqlValue binding.value)
        = (document.scalars kind).map Json.printed := by
    rw [← map_ofSqlValue_boundValues parsed translated kind, ← values, List.map_map]
    rfl
  rw [printed, List.forall₂_map_right_iff, List.forall₂_same]
  exact fun scalar member => printedAs_printed (isRead_of_mem_scalars parsed member)

/-- The least integer that needs all sixty-four bits is rounded; a fraction and a list stay what
they are, and the operand of a test for null is not bound.
-/
theorem compile_printed_mixed
    : let text :=
        "\x7b\"table\":\"t\",\"values\":\x7b\"a\":9223372036854775808,\"b\":-0.5\x7d,"
          ++ "\"where\":[\x7b\"column\":\"c\",\"op\":\"in\",\"value\":[null,\"x\"]\x7d,"
          ++ "\x7b\"column\":\"d\",\"op\":\"isnull\",\"value\":1\x7d]\x7d"
      ∃ document query compiled after,
        ofText? text = some document
        ∧ document.toQuery {} = .ok query
        ∧ (Compiler.forDialect .pgsql).compile .update query = (.ok compiled, after)
        ∧ List.Forall₂ Json.PrintedAs (document.scalars .update)
            (compiled.bound.map fun binding => Json.ofSqlValue binding.value)
        ∧ compiled.bound.map (·.value)
          = [.float ⟨0x43e0000000000000⟩, .float ⟨0xbfe0000000000000⟩, .null, .text "x"] := by
  intro text
  have values
      : ((ofText? text).bind fun document =>
          (document.toQuery {}).toOption.bind fun query =>
            ((Compiler.forDialect .pgsql).compile .update query).1.toOption.map fun compiled =>
              compiled.bound.map (·.value))
        = some [.float ⟨0x43e0000000000000⟩, .float ⟨0xbfe0000000000000⟩, .null, .text "x"] := by
    -- The characters of the text are written out, which the kernel is slow to do itself.
    rw [ofText?, Json.Tree.ofText?, String.toList_append, String.toList_append,
      String.toList_ofList, String.toList_ofList, String.toList_ofList]
    decide +kernel
  obtain ⟨document, parsed, values⟩ := Option.bind_eq_some_iff.mp values
  obtain ⟨query, isQuery, values⟩ := Option.bind_eq_some_iff.mp values
  obtain ⟨compiled, isCompiled, values⟩ := Option.map_eq_some_iff.mp values
  have translated := toOption_eq_some_iff.mp isQuery
  have ok
      : (Compiler.forDialect .pgsql).compile .update query
        = (.ok compiled, ((Compiler.forDialect .pgsql).compile .update query).2) :=
    Prod.ext (toOption_eq_some_iff.mp isCompiled) rfl
  exact ⟨document, query, compiled, _, parsed, translated, ok,
    compile_printed parsed translated ok, values⟩

/-- Two integers that are one apart are printed as one number, which is neither. -/
theorem compile_rounds
    : let document (id : Int) : Document :=
        { table := "t", values := [("id", .number (.integer id))] }
      let compile (id : Int) :=
        ((document id).toQuery {}).map fun query =>
          ((Compiler.forDialect .generic).compile .insert query).1
      let compiled : Compiled :=
        { kind := .insert
          dialect := .generic
          sql := "INSERT INTO \"t\" ( \"id\" ) VALUES ( :db_prep_1 )"
          bound := [⟨":db_prep_1", .float ⟨0x43e0000000000000⟩⟩] }
      compile 9223372036854775809 = .ok (.ok compiled)
      ∧ compile 9223372036854775808 = .ok (.ok compiled)
      ∧ CommandLine.statementOutput compiled
        = compiled.sql ++ "\n\x7b\n  \":db_prep_1\": 9.223372036854776e+18\n\x7d\n" := by
  decide +kernel

end Document

end SqlCompiler
