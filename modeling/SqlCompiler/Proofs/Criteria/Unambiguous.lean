import SqlCompiler.Proofs.Criteria.Presence
import SqlCompiler.Proofs.Criteria.Sign
import SqlCompiler.Proofs.Statement.Bound
import SqlCompiler.Proofs.Statement.Reading

/-! Criteria can be read back from their text and the bindings. The predicates are taken off the
text one by one: a column ends at the first blank outside delimiters, a sign is told from its
first characters, and the numbers of the placeholders are known.
-/

namespace SqlCompiler

open Sql

/-- All values of the predicate are bound, and none of its lists is empty. -/
structure Predicate.IsBound (predicate : Predicate) : Prop where
  values : ∀ value ∈ predicate.relation.values, value.raw? = none
  notEmpty : predicate.relation ≠ .isIn [] ∧ predicate.relation ≠ .notIn []

instance : DecidablePred Predicate.IsBound := fun _ =>
  decidable_of_iff (_ ∧ _) ⟨fun ⟨values, notEmpty⟩ => ⟨values, notEmpty⟩,
    fun bound => ⟨bound.values, bound.notEmpty⟩⟩

-----------------------------------------------------------------------------------------
-- Bound values
-----------------------------------------------------------------------------------------

theorem Value.exists_eq_bind {value : Value} (bound : value.raw? = none)
    : ∃ content, value = .bind content := by
  cases value with
  | raw sql => cases bound
  | bind content => exact ⟨content, rfl⟩

/-- Values that are all bound are known from what is bound, by induction on the values. -/
theorem map_bind_filterMap_bound? {values : List Value}
    (bound : ∀ value ∈ values, value.raw? = none)
    : (values.filterMap Value.bound?).map Value.bind = values := by
  induction values with
  | nil => rfl
  | cons value values ih =>
      obtain ⟨first, rest⟩ := List.forall_mem_cons.mp bound
      obtain ⟨content, rfl⟩ := Value.exists_eq_bind first
      simpa [Value.bound?] using ih rest

theorem Predicate.IsBound.map_boundValues {predicate : Predicate} (h : predicate.IsBound)
    : predicate.relation.boundValues.map Value.bind = predicate.relation.values :=
  map_bind_filterMap_bound? h.values

theorem Predicate.IsBound.length_boundValues {predicate : Predicate} (h : predicate.IsBound)
    : predicate.relation.boundValues.length = predicate.relation.values.length := by
  rw [← h.map_boundValues, List.length_map]

theorem Predicate.IsBound.admits {predicate : Predicate} (h : predicate.IsBound)
    : predicate.relation.sign.Admits predicate.relation.values.length := by
  obtain ⟨column, relation, connector⟩ := predicate
  obtain ⟨_, notEmptyIn, notEmptyOut⟩ := h
  cases relation with
  | isIn values => exact List.length_pos_iff.mpr fun empty => notEmptyIn (empty ▸ rfl)
  | notIn values => exact List.length_pos_iff.mpr fun empty => notEmptyOut (empty ▸ rfl)
  | _ => rfl

-----------------------------------------------------------------------------------------
-- One predicate
-----------------------------------------------------------------------------------------

/-- Bound values are read as their placeholders with commas in between, by induction on the
values.
-/
theorem Template.lexemes_ofValues (quoteChar : Char) (placeholderPrefix column : String)
    (number : Nat) {values : List Value} (bound : ∀ value ∈ values, value.raw? = none)
    : (ofValues column values).lexemes quoteChar placeholderPrefix number
      = List.intercalate [.char ',', .char ' ']
          ((List.range' number values.length).map fun n =>
            (Binder.placeholder placeholderPrefix n).toList.map .char) := by
  rw [ofValues, join]
  induction values generalizing number with
  | nil => rfl
  | cons value values ih =>
      obtain ⟨first, rest⟩ := List.forall_mem_cons.mp bound
      obtain ⟨content, rfl⟩ := Value.exists_eq_bind first
      cases values with
      | nil => simp [ofValue, lexemes, List.range'_succ]
      | cons next values =>
          rw [List.map_cons, List.map_cons, List.intercalate_cons_cons, ← List.map_cons,
            List.append_assoc, ofValue, List.singleton_append, lexemes,
            List.singleton_append, lexemes, ih (number + 1) rest]
          simp [List.range'_succ]

/-- A predicate is read as the path of its column and its sign around the placeholders, by cases
on the relation.
-/
theorem Predicate.IsBound.lexemes_template {predicate : Predicate} (h : predicate.IsBound)
    (quoteChar : Char) (placeholderPrefix : String) (number : Nat)
    : predicate.template.lexemes quoteChar placeholderPrefix number
      = path quoteChar predicate.column.toList
        ++ predicate.relation.sign.opening.toList.map .char
        ++ predicate.relation.sign.operand placeholderPrefix number
            predicate.relation.values.length := by
  obtain ⟨column, relation, connector⟩ := predicate
  obtain ⟨bound, notEmptyIn, notEmptyOut⟩ := h
  have list := Template.lexemes_ofValues quoteChar placeholderPrefix column number bound
  cases relation with
  | compare _ value | like value =>
      obtain ⟨content, rfl⟩ := Value.exists_eq_bind (bound value List.mem_cons_self)
      simp [template, Template.ofValue, Template.lexemes, Relation.sign, Relation.values,
        Sign.operand, Sign.opening, Sign.separator, Sign.closing]
  | isIn values | notIn values =>
      cases values with
      | nil => contradiction
      | cons value values =>
          simp only [Relation.values] at list
          simp [template, list, Template.lexemes, Template.lexemes_append, Relation.sign,
            Relation.values, Sign.operand, Sign.opening, Sign.separator, Sign.closing]
  | between low high =>
      obtain ⟨first, rest⟩ := List.forall_mem_cons.mp bound
      obtain ⟨lowest, rfl⟩ := Value.exists_eq_bind first
      obtain ⟨highest, rfl⟩ := Value.exists_eq_bind (rest high List.mem_cons_self)
      simp [template, Template.ofValue, Template.lexemes, Relation.sign, Relation.values,
        Sign.operand, Sign.opening, Sign.separator, Sign.closing, List.range'_succ]
  | isNull | isNotNull =>
      simp [template, Template.lexemes, Relation.sign, Relation.values, Sign.operand,
        Sign.opening, Sign.separator, Sign.closing]

/-- Two predicates at the start of one text are quoted alike, have one sign and as many values,
and end at the same place.
-/
theorem Predicate.lexemes_append_inj {left right : Predicate} (boundLeft : left.IsBound)
    (boundRight : right.IsBound) {quoteChar : Char} {placeholderPrefix : String} {number : Nat}
    {x y : List Lexeme}
    (same
      : left.template.lexemes quoteChar placeholderPrefix number ++ x
        = right.template.lexemes quoteChar placeholderPrefix number ++ y)
    : Identifier.quote quoteChar left.column = Identifier.quote quoteChar right.column
      ∧ left.relation.sign = right.relation.sign
      ∧ left.relation.values.length = right.relation.values.length
      ∧ x = y := by
  have noBlank (name : List Char) : Lexeme.char ' ' ∉ path quoteChar name := by
    intro member
    rcases mem_path member with star | dot
    · cases star
    · cases dot
  obtain ⟨textLeft, opensLeft⟩ := left.relation.sign.exists_opening
  obtain ⟨textRight, opensRight⟩ := right.relation.sign.exists_opening
  rw [boundLeft.lexemes_template, boundRight.lexemes_template] at same
  simp only [List.append_assoc] at same
  -- Every opening starts with a blank, and a path has none outside delimiters.
  have columns := same
  rw [opensLeft, opensRight, List.map_cons, List.map_cons, List.cons_append,
    List.cons_append] at columns
  obtain ⟨samePath, _⟩ := Text.append_separator_inj (noBlank _) (noBlank _) columns
  rw [samePath] at same
  obtain ⟨sameSign, operands⟩ := Sign.opening_append_inj (List.append_cancel_left same)
  rw [sameSign] at operands
  obtain ⟨sameCount, rests⟩ :=
    Sign.operand_append_inj (sameSign ▸ boundLeft.admits) boundRight.admits operands
  exact ⟨quote_eq_of_path_eq samePath, sameSign, sameCount, rests⟩

-----------------------------------------------------------------------------------------
-- Lists of predicates
-----------------------------------------------------------------------------------------

/-- What a predicate says, with its column as it is quoted. -/
def Predicate.shown (quoteChar : Char) (predicate : Predicate) : String × Relation :=
  (Identifier.quote quoteChar predicate.column, predicate.relation)

variable {quoteChar : Char} {placeholderPrefix : String} {number : Nat}

/-- Two predicates at the start of one text, with their values at the start of one list of
values, are shown alike, and what is behind them is read with the same numbers.
-/
theorem Predicate.shown_append_inj {left right : Predicate} (boundLeft : left.IsBound)
    (boundRight : right.IsBound) {x y : Template} {u v : List SqlValue}
    (sameText
      : (left.template ++ x).lexemes quoteChar placeholderPrefix number
        = (right.template ++ y).lexemes quoteChar placeholderPrefix number)
    (sameValues : left.relation.boundValues ++ u = right.relation.boundValues ++ v)
    : left.shown quoteChar = right.shown quoteChar
      ∧ x.lexemes quoteChar placeholderPrefix (number + left.relation.boundValues.length)
        = y.lexemes quoteChar placeholderPrefix (number + left.relation.boundValues.length)
      ∧ u = v := by
  rw [Template.lexemes_append, Template.lexemes_append, left.slotValues_template,
    right.slotValues_template] at sameText
  obtain ⟨sameColumn, sameSign, sameCount, rests⟩ :=
    lexemes_append_inj boundLeft boundRight sameText
  rw [← boundLeft.length_boundValues, ← boundRight.length_boundValues] at sameCount
  -- Only the text says where the values of one predicate end and those of the next one start.
  obtain ⟨sameBound, others⟩ := List.append_inj sameValues sameCount
  have values : left.relation.values = right.relation.values := by
    rw [← boundLeft.map_boundValues, sameBound, boundRight.map_boundValues]
  have relations := Relation.eq_of_sign_of_values sameSign values
  exact ⟨Prod.ext sameColumn relations, sameCount ▸ rests, others⟩

theorem Connector.keyword_append_inj {left right : Connector} {x y : List Lexeme}
    (same
      : (" " ++ left.keyword ++ " ").toList.map Lexeme.char ++ x
        = (" " ++ right.keyword ++ " ").toList.map .char ++ y)
    : left = right ∧ x = y := by
  cases left <;> cases right <;> simp_all [keyword]

namespace Criteria

/-- Criteria that consist of predicates. -/
def ofPredicates (predicates : List Predicate) : Criteria :=
  ⟨predicates.map .predicate⟩

/-- The template of predicates behind the first, each with its connector. -/
def continuation (predicates : List Predicate) : Template :=
  predicates.flatMap fun predicate => connected (.predicate predicate)

theorem lexemes_continuation_cons (predicate : Predicate) (predicates : List Predicate)
    : (continuation (predicate :: predicates)).lexemes quoteChar placeholderPrefix number
      = (" " ++ predicate.connector.keyword ++ " ").toList.map .char
        ++ (predicate.template ++ continuation predicates).lexemes quoteChar placeholderPrefix
            number :=
  rfl

/-- The predicates behind the first are known from their text and their values, by induction on
them.
-/
theorem continuation_inj {left right : List Predicate}
    (boundLeft : ∀ predicate ∈ left, predicate.IsBound)
    (boundRight : ∀ predicate ∈ right, predicate.IsBound)
    (sameText
      : (continuation left).lexemes quoteChar placeholderPrefix number
        = (continuation right).lexemes quoteChar placeholderPrefix number)
    (sameValues
      : left.flatMap (·.relation.boundValues) = right.flatMap (·.relation.boundValues))
    : left.map (Predicate.shown quoteChar) = right.map (Predicate.shown quoteChar)
      ∧ left.map (·.connector) = right.map (·.connector) := by
  induction left generalizing number right with
  | nil =>
      cases right with
      | nil => exact ⟨rfl, rfl⟩
      | cons next right =>
          rw [lexemes_continuation_cons] at sameText
          simp [continuation, Template.lexemes] at sameText
  | cons first left ih =>
      cases right with
      | nil =>
          rw [lexemes_continuation_cons] at sameText
          simp [continuation, Template.lexemes] at sameText
      | cons next right =>
          obtain ⟨firstBound, boundLeft⟩ := List.forall_mem_cons.mp boundLeft
          obtain ⟨nextBound, boundRight⟩ := List.forall_mem_cons.mp boundRight
          rw [lexemes_continuation_cons, lexemes_continuation_cons] at sameText
          obtain ⟨sameConnector, parts⟩ := Connector.keyword_append_inj sameText
          obtain ⟨sameShown, rests, others⟩ :=
            Predicate.shown_append_inj firstBound nextBound parts sameValues
          obtain ⟨shown, connectors⟩ := ih boundLeft boundRight rests others
          exact ⟨congrArg₂ List.cons sameShown shown,
            congrArg₂ List.cons sameConnector connectors⟩

/-- The first predicate stands without its connector, and none is skipped. -/
theorem template_ofPredicates_cons (first : Predicate) (rest : List Predicate)
    : (ofPredicates (first :: rest)).template = first.template ++ continuation rest := by
  have written : (ofPredicates (first :: rest)).written = (first :: rest).map .predicate := by
    refine List.filter_eq_self.mpr (List.forall_mem_map.mpr ?_)
    intro predicate _
    exact congrArg not predicate.isBlank_template
  rw [template, written, continuation]
  exact congrArg (first.template ++ ·) (List.flatMap_map Entry.predicate connected rest)

theorem boundValues_ofPredicates (predicates : List Predicate)
    : (ofPredicates predicates).boundValues
      = predicates.flatMap (·.relation.boundValues) := by
  rw [boundValues, ofPredicates, List.flatMap_map]
  rfl

theorem ofPredicates_inj {left right : List Predicate}
    (boundLeft : ∀ predicate ∈ left, predicate.IsBound)
    (boundRight : ∀ predicate ∈ right, predicate.IsBound)
    (sameText
      : (ofPredicates left).template.lexemes quoteChar placeholderPrefix number
        = (ofPredicates right).template.lexemes quoteChar placeholderPrefix number)
    (sameValues : (ofPredicates left).boundValues = (ofPredicates right).boundValues)
    : left.map (Predicate.shown quoteChar) = right.map (Predicate.shown quoteChar)
      ∧ left.tail.map (·.connector) = right.tail.map (·.connector) := by
  have notEmpty {first : Predicate} {rest : List Predicate} (bound : first.IsBound)
      : (ofPredicates (first :: rest)).template.lexemes quoteChar placeholderPrefix number
        ≠ [] := by
    obtain ⟨text, opens⟩ := first.relation.sign.exists_opening
    rw [template_ofPredicates_cons, Template.lexemes_append, bound.lexemes_template, opens]
    simp
  cases left with
  | nil =>
      cases right with
      | nil => exact ⟨rfl, rfl⟩
      | cons next right =>
          exact absurd sameText.symm (notEmpty (boundRight next List.mem_cons_self))
  | cons first left =>
      cases right with
      | nil => exact absurd sameText (notEmpty (boundLeft first List.mem_cons_self))
      | cons next right =>
          obtain ⟨firstBound, boundLeft⟩ := List.forall_mem_cons.mp boundLeft
          obtain ⟨nextBound, boundRight⟩ := List.forall_mem_cons.mp boundRight
          rw [template_ofPredicates_cons, template_ofPredicates_cons] at sameText
          rw [boundValues_ofPredicates, boundValues_ofPredicates] at sameValues
          obtain ⟨sameShown, rests, others⟩ :=
            Predicate.shown_append_inj firstBound nextBound sameText sameValues
          obtain ⟨shown, connectors⟩ := continuation_inj boundLeft boundRight rests others
          exact ⟨congrArg₂ List.cons sameShown shown, connectors⟩

theorem verbatim_ofPredicates {predicates : List Predicate}
    (bound : ∀ predicate ∈ predicates, predicate.IsBound)
    : (ofPredicates predicates).verbatim = [] := by
  refine List.flatMap_eq_nil_iff.mpr (List.forall_mem_map.mpr ?_)
  intro predicate listed
  exact List.filterMap_eq_nil_iff.mpr (bound predicate listed).values

end Criteria

-----------------------------------------------------------------------------------------
-- Building criteria
-----------------------------------------------------------------------------------------

namespace Compiler

/-- The text of criteria without verbatim texts is read as the lexemes of their template. -/
theorem lexemes?_buildCriteria {dialect : Dialect} {criteria : Criteria} {binder last : Binder}
    {sql : String}
    (ok : (forDialect dialect).buildCriteria criteria (some binder) = .ok (sql, some last))
    (valid : isPlaceholderPrefix binder.placeholderPrefix = true)
    (plain : criteria.verbatim = [])
    : lexemes? dialect.quoteChar sql
      = some (criteria.template.lexemes dialect.quoteChar binder.placeholderPrefix
          binder.counter) := by
  have avoids : criteria.template.Avoids dialect.quoteChar :=
    Criteria.template_avoids dialect.quoteChar_mem_markers (by simp [plain])
  rw [buildCriteria_some] at ok
  obtain ⟨rfl, _⟩ := Prod.mk.inj (Except.ok.inj ok)
  exact dialect.lexemes?_render criteria.template_spaced avoids valid binder.counter

theorem bindings_buildCriteria {dialect : Dialect} {criteria : Criteria} {binder last : Binder}
    {sql : String}
    (ok : (forDialect dialect).buildCriteria criteria (some binder) = .ok (sql, some last))
    : last.bindings
      = binder.bindings
        ++ Binder.numbered binder.placeholderPrefix binder.counter criteria.boundValues := by
  rw [buildCriteria_some, Criteria.slotValues_template, Binder.prepareAll_eq] at ok
  obtain ⟨_, isLast⟩ := Prod.mk.inj (Except.ok.inj ok)
  rw [← Option.some.inj isLast]

/-- Criteria of predicates whose values are all bound, with no empty list among them, can be read
back from their text and the bindings: two that are built from one binder with the same outcome
have the same columns as they are quoted, the same relations with all their values, and from the
second predicate on the same connectors.
-/
theorem buildCriteria_injective {dialect : Dialect} {left right : List Predicate}
    (boundLeft : ∀ predicate ∈ left, predicate.IsBound)
    (boundRight : ∀ predicate ∈ right, predicate.IsBound) {binder : Binder}
    (valid : isPlaceholderPrefix binder.placeholderPrefix = true) {sql : String}
    {lastLeft lastRight : Binder}
    (okLeft
      : (forDialect dialect).buildCriteria ⟨left.map .predicate⟩ (some binder)
        = .ok (sql, some lastLeft))
    (okRight
      : (forDialect dialect).buildCriteria ⟨right.map .predicate⟩ (some binder)
        = .ok (sql, some lastRight))
    (sameBindings : lastLeft.bindings = lastRight.bindings)
    : left.map (fun predicate =>
          (Identifier.quote dialect.quoteChar predicate.column, predicate.relation))
        = right.map (fun predicate =>
          (Identifier.quote dialect.quoteChar predicate.column, predicate.relation))
      ∧ left.tail.map (·.connector) = right.tail.map (·.connector) := by
  have readLeft := lexemes?_buildCriteria okLeft valid (Criteria.verbatim_ofPredicates boundLeft)
  have readRight :=
    lexemes?_buildCriteria okRight valid (Criteria.verbatim_ofPredicates boundRight)
  rw [bindings_buildCriteria okLeft, bindings_buildCriteria okRight] at sameBindings
  have sameValues := congrArg (List.map (·.value)) (List.append_cancel_left sameBindings)
  rw [Binder.map_value_numbered, Binder.map_value_numbered] at sameValues
  exact Criteria.ofPredicates_inj boundLeft boundRight
    (Option.some.inj (readLeft.symm.trans readRight)) sameValues

/-- One text from two lists of predicates, which differ in the connector of the first and in
delimiters that are already there; `AND` is a part of a range, a connector and a part of a column.
-/
theorem buildCriteria_injective_delimited
    : let between : Relation := .between (.bind (.int 1)) (.bind (.int 2))
      let isIn : Relation := .isIn [.bind (.text "v"), .bind .null]
      let left : List Predicate :=
        [⟨"t.a", between, .or⟩, ⟨"x\" AND \"y", isIn, .or⟩, ⟨"c", .isNull, .and⟩]
      let right : List Predicate :=
        [⟨"\"t\".\"a\"", between, .and⟩, ⟨"\"x\"\" AND \"\"y\"", isIn, .or⟩,
          ⟨"\"c\"", .isNull, .and⟩]
      let binder := (Binder.prepare {} (.bool true)).2
      let sql :=
        "\"t\".\"a\" BETWEEN :db_prep_2 AND :db_prep_3"
          ++ " OR \"x\"\" AND \"\"y\" IN ( :db_prep_4, :db_prep_5 ) AND \"c\" IS NULL"
      let last := (binder.prepareAll [.int 1, .int 2, .text "v", .null]).2
      (∀ predicate ∈ left ++ right, predicate.IsBound)
      ∧ (forDialect .generic).buildCriteria ⟨left.map .predicate⟩ (some binder)
        = .ok (sql, some last)
      ∧ (forDialect .generic).buildCriteria ⟨right.map .predicate⟩ (some binder)
        = .ok (sql, some last)
      ∧ left.map (fun predicate => (Identifier.quote '"' predicate.column, predicate.relation))
        = right.map (fun predicate =>
          (Identifier.quote '"' predicate.column, predicate.relation))
      ∧ left.tail.map (·.connector) = right.tail.map (·.connector) := by
  intro between isIn left right binder sql last
  have boundLeft : ∀ predicate ∈ left, predicate.IsBound := by decide
  have boundRight : ∀ predicate ∈ right, predicate.IsBound := by decide
  have okLeft
      : (forDialect .generic).buildCriteria ⟨left.map .predicate⟩ (some binder)
        = .ok (sql, some last) := by
    decide +kernel
  have okRight
      : (forDialect .generic).buildCriteria ⟨right.map .predicate⟩ (some binder)
        = .ok (sql, some last) := by
    decide +kernel
  have valid : isPlaceholderPrefix binder.placeholderPrefix = true := by decide
  obtain ⟨shown, connectors⟩ :=
    buildCriteria_injective boundLeft boundRight valid okLeft okRight rfl
  exact ⟨List.forall_mem_append.mpr ⟨boundLeft, boundRight⟩, okLeft, okRight, shown, connectors⟩

end Compiler

end SqlCompiler
