import SqlCompiler.Proofs.Text.Intercalate
import SqlCompiler.Proofs.Text.Phrase
import SqlCompiler.Query.Basic

/-! Keywords and methods name the same relations. A keyword may be written in any case of its
letters and with any blanks around and between its words; with an operand that holds the arguments
of a method it adds the predicate that the method adds.
-/

namespace SqlCompiler

open Text

-----------------------------------------------------------------------------------------
-- Spellings of keywords
-----------------------------------------------------------------------------------------

/-- The text consists of the words, each in any case of its letters. -/
def Spells (text : List Char) (words : List String) : Prop :=
  ∃ written,
    Phrase written text ∧ written.map upper = words.map fun word => upper word.toList

namespace Operator

/-- The keywords of an operator, word by word: those that are documented, and `==` for equality,
which is accepted besides.
-/
def spellings : Operator → List (List String)
  | equals => [["="], ["=="], ["eq"]]
  | differs => [["!="], ["<>"], ["ne"]]
  | compare .eq | compare .ne => []
  | compare .lt => [["<"], ["lt"]]
  | compare .le => [["<="], ["le"]]
  | compare .gt => [[">"], ["gt"]]
  | compare .ge => [[">="], ["ge"]]
  | like => [["LIKE"]]
  | isIn => [["IN"]]
  | notIn => [["NOT", "IN"], ["notIn"]]
  | between => [["BETWEEN"]]
  | isNull => [["IS", "NULL"], ["isNull"]]
  | isNotNull => [["IS", "NOT", "NULL"], ["notNull"]]

/-- Some words in upper case, with one space in between. -/
def upperJoined (words : List String) : String :=
  String.ofList (List.intercalate [' '] (words.map fun word => upper word.toList))

/-- The normal form of a keyword is that of its words, whatever their case and the blanks. -/
theorem normalize_of_spells {keyword : String} {words : List String}
    (spells : Spells keyword.toList words)
    : normalize keyword = upperJoined words := by
  obtain ⟨written, phrase, sameLetters⟩ := spells
  rw [normalize, phrase.words_eq, upper, map_intercalate, upperJoined, ← sameLetters]
  rfl

/-- Every spelling of an operator is in the table, by cases on the operator. -/
theorem lookup_upperJoined {operator : Operator} {words : List String}
    (listed : words ∈ operator.spellings)
    : keywords.lookup (upperJoined words) = some operator := by
  revert words
  cases operator with
  | compare op => cases op <;> decide +kernel
  | _ => decide +kernel

theorem ofKeyword?_of_spells {operator : Operator} {words : List String} {keyword : String}
    (listed : words ∈ operator.spellings) (spells : Spells keyword.toList words)
    : ofKeyword? keyword = some operator := by
  rw [ofKeyword?, normalize_of_spells spells, lookup_upperJoined listed]

end Operator

-----------------------------------------------------------------------------------------
-- Methods
-----------------------------------------------------------------------------------------

/-- A method that completes a condition, with its arguments. -/
inductive Method
  | eq (operand : Operand)
  | ne (operand : Operand)
  | lt (value : Value)
  | le (value : Value)
  | gt (value : Value)
  | ge (value : Value)
  | like (pattern : Value)
  | isIn (values : List Value)
  | notIn (values : List Value)
  | between (low high : Value)
  | isNull
  | isNotNull

namespace Method

/-- Completes a condition by the method. -/
def complete {α : Type} (condition : Condition α) : Method → α
  | eq operand => condition.eq operand
  | ne operand => condition.ne operand
  | lt value => condition.lt value
  | le value => condition.le value
  | gt value => condition.gt value
  | ge value => condition.ge value
  | like pattern => condition.like pattern
  | isIn values => condition.isIn values
  | notIn values => condition.notIn values
  | between low high => condition.between low high
  | isNull => condition.isNull
  | isNotNull => condition.isNotNull

/-- The relation that a method asserts. -/
def relation : Method → Relation
  | eq operand => .equals operand
  | ne operand => .differs operand
  | lt value => .compare .lt value
  | le value => .compare .le value
  | gt value => .compare .gt value
  | ge value => .compare .ge value
  | like pattern => .like pattern
  | isIn values => .isIn values
  | notIn values => .notIn values
  | between low high => .between low high
  | isNull => .isNull
  | isNotNull => .isNotNull

/-- The operator that stands for a method among the keywords. -/
def operator : Method → Operator
  | eq _ => .equals
  | ne _ => .differs
  | lt _ => .compare .lt
  | le _ => .compare .le
  | gt _ => .compare .gt
  | ge _ => .compare .ge
  | like _ => .like
  | isIn _ => .isIn
  | notIn _ => .notIn
  | between _ _ => .between
  | isNull => .isNull
  | isNotNull => .isNotNull

/-- The operand holds the arguments of the method. A list of one is as good as a single value, but
not for equality; checks for null do not look at their operand.
-/
def Takes : Method → Operand → Prop
  | eq given, operand | ne given, operand => operand = given
  | lt value, operand | le value, operand | gt value, operand | ge value, operand
  | like value, operand => operand.values = [value]
  | isIn values, operand | notIn values, operand => operand.values = values
  | between low high, operand => operand.values = [low, high]
  | isNull, _ | isNotNull, _ => True

theorem complete_eq {α : Type} (method : Method) (condition : Condition α)
    : method.complete condition = condition.relate method.relation := by
  cases method <;> rfl

end Method

namespace Relation

theorem scalar_of_values {operand : Operand} {value : Value} (one : operand.values = [value])
    (keyword : String)
    : scalar keyword operand = .ok value := by
  cases operand with
  | single given => simpa [Operand.values, scalar] using one
  | list values =>
      obtain rfl : values = [value] := one
      rfl

/-- The operator of a method makes the relation that the method asserts, by cases on the method. -/
theorem ofOperator_operator {method : Method} {operand : Operand} (takes : method.Takes operand)
    (column keyword : String)
    : ofOperator column keyword operand method.operator = .ok method.relation := by
  cases method with
  | eq given | ne given =>
      obtain rfl : operand = given := takes
      rfl
  | lt value | le value | gt value | ge value | like value =>
      simp only [Method.operator, ofOperator, scalar_of_values takes]
      rfl
  | isIn values | notIn values =>
      obtain rfl : operand.values = values := takes
      rfl
  | between low high =>
      have two : operand.values = [low, high] := takes
      simp only [Method.operator, ofOperator, two]
      rfl
  | isNull | isNotNull => rfl

/-- A keyword in any spelling makes the relation of its method. -/
theorem ofKeyword_of_spells {method : Method} {operand : Operand} {words : List String}
    {keyword : String} (takes : method.Takes operand) (listed : words ∈ method.operator.spellings)
    (spells : Spells keyword.toList words) (column : String)
    : ofKeyword column keyword operand = .ok method.relation := by
  simp only [ofKeyword, Operator.ofKeyword?_of_spells listed spells]
  exact ofOperator_operator takes column _

/-- The values of a relation as an operand: a comparison has one, other relations have a list. -/
def operand : Relation → Operand
  | compare _ value => .single value
  | like pattern => .single pattern
  | relation => .list relation.values

/-- The operator among the keywords that makes a relation. -/
def operator : Relation → Operator
  | compare .eq _ => .equals
  | compare .ne _ => .differs
  | compare op _ => .compare op
  | isIn _ => .isIn
  | notIn _ => .notIn
  | between _ _ => .between
  | like _ => .like
  | isNull => .isNull
  | isNotNull => .isNotNull

/-- The keyword of a relation is in the table, by cases on the relation. -/
theorem ofKeyword?_keyword (relation : Relation)
    : Operator.ofKeyword? relation.keyword = some relation.operator := by
  cases relation with
  | compare op value =>
      cases op <;> simp only [keyword, operator, CompareOp.symbol] <;> decide +kernel
  | _ =>
      simp only [keyword, operator]
      decide +kernel

/-- The keyword of a relation names it: its operator makes it from its values, by cases on it. -/
theorem ofKeyword_keyword (column : String) (relation : Relation)
    : ofKeyword column relation.keyword relation.operand = .ok relation := by
  simp only [ofKeyword, ofKeyword?_keyword]
  cases relation with
  | compare op value => cases op <;> rfl
  | _ => rfl

end Relation

-----------------------------------------------------------------------------------------
-- Conditions
-----------------------------------------------------------------------------------------

namespace Criteria

theorem pushCondition_of_ok {column keyword : String} {operand : Operand} {relation : Relation}
    (made : Relation.ofKeyword column keyword operand = .ok relation) (criteria : Criteria)
    (connector : Connector)
    : criteria.pushCondition column keyword operand connector
      = .ok (criteria.pushPredicate { column, relation, connector }) := by
  simp only [pushCondition, made]
  rfl

/-- A keyword in any spelling, with an operand that holds the arguments of a method, adds what the
method adds: to criteria, with either connector, and to the criteria of a query. Every relation is
made by its own keyword from its own values.
-/
theorem pushCondition_spelled (column : String)
    : (∀ (method : Method) (operand : Operand) (words : List String) (keyword : String),
        method.Takes operand
        → words ∈ method.operator.spellings
        → Spells keyword.toList words
        → (∀ criteria : Criteria,
            criteria.pushCondition column keyword operand
              = .ok (method.complete (criteria.column column))
            ∧ criteria.pushCondition column keyword operand .or
              = .ok (method.complete (criteria.orColumn column)))
          ∧ ∀ query : Query,
              query.whereCondition column keyword operand
                = .ok (method.complete (query.whereColumn column)))
      ∧ ∀ relation : Relation,
          Relation.ofKeyword column relation.keyword relation.operand = .ok relation := by
  refine ⟨?spelled, Relation.ofKeyword_keyword column⟩
  intro method operand words keyword takes listed spells
  have made := Relation.ofKeyword_of_spells takes listed spells column
  simp only [Method.complete_eq]
  refine ⟨fun criteria => ⟨?and, ?or⟩, fun query => ?query⟩
  case and => exact pushCondition_of_ok made criteria .and
  case or => exact pushCondition_of_ok made criteria .or
  case query =>
    simp only [Query.whereCondition, pushCondition_of_ok made]
    rfl

/-- Blanks of several kinds and letters of either case, and a raw value beside a bound one. -/
theorem pushCondition_spelled_blanks
    : let keyword := "\u2003nOt\n \tiN\u00a0"
      let operand : Operand := .list [.raw "NOW()", .bind .null]
      let method : Method := .notIn [.raw "NOW()", .bind .null]
      let criteria : Criteria := ⟨[.raw "a = 1"]⟩
      let relation : Relation := .between (.bind (.int 1)) (.raw "b")
      method.Takes operand
      ∧ ["NOT", "IN"] ∈ method.operator.spellings
      ∧ Spells keyword.toList ["NOT", "IN"]
      ∧ criteria.pushCondition "c" keyword operand .or
        = .ok (method.complete (criteria.orColumn "c"))
      ∧ method.complete (criteria.orColumn "c")
        = ⟨[.raw "a = 1", .predicate ⟨"c", .notIn [.raw "NOW()", .bind .null], .or⟩]⟩
      ∧ Relation.ofKeyword "c" "BETWEEN" (.list [.bind (.int 1), .raw "b"]) = .ok relation := by
  intro keyword operand method criteria relation
  have takes : method.Takes operand := rfl
  have listed : ["NOT", "IN"] ∈ method.operator.spellings := by decide
  have spells : Spells keyword.toList ["NOT", "IN"] :=
    ⟨Text.words keyword.toList, phrase_words _, by decide +kernel⟩
  obtain ⟨spelled, again⟩ := pushCondition_spelled "c"
  obtain ⟨ofCriteria, -⟩ := spelled method operand ["NOT", "IN"] keyword takes listed spells
  exact ⟨takes, listed, spells, (ofCriteria criteria).2, rfl, again relation⟩

end Criteria

end SqlCompiler
