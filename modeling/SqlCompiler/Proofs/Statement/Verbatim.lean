import SqlCompiler.Proofs.Template.Spacing

/-! The verbatim texts of a query, and that they alone bring colons and delimiters into the
texts of a template: the keywords, signs and numbers around them have none.
-/

namespace SqlCompiler

open Sql

-----------------------------------------------------------------------------------------
-- Verbatim texts
-----------------------------------------------------------------------------------------

/-- The verbatim text of a select expression. -/
def ColumnExpr.raw? : ColumnExpr → Option String
  | name _ => none
  | raw sql => some sql

/-- The verbatim texts of an entry: a raw fragment, or the raw values of a relation. -/
def Entry.verbatim : Entry → List String
  | predicate p => p.relation.values.filterMap Value.raw?
  | raw sql => [sql]

/-- The verbatim texts of criteria. -/
def Criteria.verbatim (criteria : Criteria) : List String :=
  criteria.entries.flatMap Entry.verbatim

/-- The texts of a query that go into a statement as they are: raw select columns, raw values,
raw criteria, conditions of joins, flags, and what is returned.
-/
def Query.verbatim (query : Query) : List String :=
  query.columns.filterMap (·.expr.raw?)
    ++ query.values.filterMap (·.2.raw?)
    ++ query.criteria.verbatim
    ++ query.having.verbatim
    ++ query.joins.filterMap (·.condition)
    ++ query.flags
    ++ query.returning.toList

/-- The characters that mark placeholders and delimited identifiers. -/
def markers : List Char := [':', '"', '\x60']

/-- A text without the markers. -/
def isUnmarked (sql : String) : Bool :=
  sql.toList.all fun c => !markers.contains c

variable {c : Char}

theorem avoids_of_isUnmarked (marker : c ∈ markers) {sql : String}
    (unmarked : isUnmarked sql = true)
    : (Piece.text sql).Avoids c := by
  intro member
  have absent := List.all_eq_true.mp unmarked c member
  simp [marker] at absent

/-- An unmarked text may be put before any template. -/
theorem avoids_text_cons (marker : c ∈ markers) {sql : String}
    (unmarked : isUnmarked sql = true) {rest : Template} (h : rest.Avoids c)
    : Template.Avoids c (.text sql :: rest) :=
  (Template.avoids_cons _ _ _).mpr ⟨avoids_of_isUnmarked marker unmarked, h⟩

/-- A decimal number is made of digits. -/
theorem isUnmarked_toString (n : Nat) : isUnmarked (toString n) = true := by
  refine List.all_eq_true.mpr ?_
  intro d member
  have digit : d.isDigit = true :=
    Nat.isDigit_of_mem_toDigits (by decide : 0 < 10) (by decide) (by simpa using member)
  have absent : d ∉ markers := by
    intro marker
    simp only [markers, List.mem_cons, List.not_mem_nil, or_false] at marker
    rcases marker with rfl | rfl | rfl <;> cases digit
  simpa using absent

theorem isUnmarked_append {left right : String}
    : isUnmarked (left ++ right) = (isUnmarked left && isUnmarked right) := by
  simp [isUnmarked]

-----------------------------------------------------------------------------------------
-- Values and criteria
-----------------------------------------------------------------------------------------

namespace Template

theorem ofValue_avoids {column : String} {value : Value}
    (plain : ∀ sql ∈ value.raw?, c ∉ sql.toList)
    : (ofValue column value).Avoids c := by
  cases value with
  | bind value => simp [ofValue, Piece.Avoids]
  | raw sql => simpa [ofValue, Piece.Avoids] using plain sql rfl

theorem ofValues_avoids (marker : c ∈ markers) {column : String} {values : List Value}
    (plain : ∀ sql ∈ values.filterMap Value.raw?, c ∉ sql.toList)
    : (ofValues column values).Avoids c := by
  refine .join_map (avoids_of_isUnmarked marker (by decide)) ?_
  intro value member
  exact ofValue_avoids fun sql raw => plain sql (List.mem_filterMap.mpr ⟨value, member, raw⟩)

theorem ofNames_avoids (marker : c ∈ markers) (names : List String)
    : (ofNames names).Avoids c := by
  refine .join_map (avoids_of_isUnmarked marker (by decide)) ?_
  intro name _
  exact (avoids_cons _ _ _).mpr ⟨trivial, avoids_nil c⟩

theorem nonBlank?_avoids {template part : Template} (h : template.Avoids c)
    (ok : template.nonBlank? = some part)
    : part.Avoids c := by
  rw [nonBlank?] at ok
  split at ok
  · cases ok
  · exact Option.some.inj ok ▸ h

theorem headed_avoids (marker : c ∈ markers) {template part : Template} {keyword : String}
    (unmarked : isUnmarked (keyword ++ " ") = true) (h : template.Avoids c)
    (ok : template.headed keyword = some part)
    : part.Avoids c := by
  obtain ⟨inner, nonBlank, rfl⟩ := Option.map_eq_some_iff.mp ok
  exact avoids_text_cons marker unmarked (nonBlank?_avoids h nonBlank)

theorem enclosed_avoids (marker : c ∈ markers) {template part : Template}
    {opening : String} (unmarked : isUnmarked opening = true) (h : template.Avoids c)
    (ok : template.enclosed opening = some part)
    : part.Avoids c := by
  obtain ⟨inner, nonBlank, rfl⟩ := Option.map_eq_some_iff.mp ok
  refine avoids_text_cons marker unmarked ((avoids_append _ _ _).mpr ⟨?_, ?_⟩)
  · exact nonBlank?_avoids h nonBlank
  · exact avoids_text_cons marker (by decide) (avoids_nil c)

end Template

theorem Predicate.template_avoids (marker : c ∈ markers) {predicate : Predicate}
    (plain : ∀ sql ∈ predicate.relation.values.filterMap Value.raw?, c ∉ sql.toList)
    : predicate.template.Avoids c := by
  obtain ⟨column, relation, connector⟩ := predicate
  have related {keyword : String} (unmarked : isUnmarked keyword = true)
      {operand : Template} (h : operand.Avoids c)
      : Template.Avoids c (.name column :: .text keyword :: operand) :=
    (Template.avoids_cons _ _ _).mpr ⟨trivial, avoids_text_cons marker unmarked h⟩
  have value (v : Value) (listed : v ∈ relation.values)
      : (Template.ofValue column v).Avoids c :=
    Template.ofValue_avoids fun sql raw => plain sql (List.mem_filterMap.mpr ⟨v, listed, raw⟩)
  have list
      : Template.Avoids c (Template.ofValues column relation.values ++ [.text " )"]) :=
    (Template.avoids_append _ _ _).mpr ⟨Template.ofValues_avoids marker plain,
      avoids_text_cons marker (by decide) (Template.avoids_nil c)⟩
  cases relation with
  | compare op v =>
      exact related (by cases op <;> decide) (value v (by simp [Relation.values]))
  | like pattern => exact related (by decide) (value pattern (by simp [Relation.values]))
  | isIn values =>
      cases values with
      | nil => exact avoids_text_cons marker (by decide) (Template.avoids_nil c)
      | cons v values => exact related (by decide) list
  | notIn values =>
      cases values with
      | nil => exact avoids_text_cons marker (by decide) (Template.avoids_nil c)
      | cons v values => exact related (by decide) list
  | between low high =>
      exact related (by decide) ((Template.avoids_append _ _ _).mpr
        ⟨value low (by simp [Relation.values]),
          avoids_text_cons marker (by decide) (value high (by simp [Relation.values]))⟩)
  | isNull => exact related (by decide) (Template.avoids_nil c)
  | isNotNull => exact related (by decide) (Template.avoids_nil c)

-----------------------------------------------------------------------------------------
-- Raw fragments
-----------------------------------------------------------------------------------------

theorem Text.mem_of_mem_trim {text : List Char} (member : c ∈ Text.trim text) : c ∈ text := by
  have inStart := (List.dropWhile_sublist _).mem (List.mem_reverse.mp member)
  exact (List.dropWhile_sublist _).mem (List.mem_reverse.mp inStart)

/-- What follows a keyword is a part of the text, by induction on the keyword. -/
theorem Text.mem_of_mem_afterKeyword? {keyword text rest : List Char}
    (found : Text.afterKeyword? keyword text = some rest) (member : c ∈ rest)
    : c ∈ text := by
  induction keyword generalizing text with
  | nil => exact Option.some.inj found ▸ member
  | cons k keyword ih =>
      cases text with
      | nil => cases found
      | cons d text =>
          rw [Text.afterKeyword?] at found
          split at found
          · exact List.mem_cons_of_mem d (ih found)
          · cases found

/-- Trimming a raw fragment and dropping its connector brings no character in. -/
theorem Entry.mem_of_mem_dropConnector {sql : List Char}
    (member : c ∈ Entry.dropConnector sql)
    : c ∈ sql := by
  simp only [Entry.dropConnector] at member
  split at member
  · rename_i rest found
    obtain ⟨keyword, _, found⟩ := List.exists_of_findSome?_eq_some found
    have inRest := (List.dropWhile_sublist _).mem member
    exact Text.mem_of_mem_trim (Text.mem_of_mem_afterKeyword? found inRest)
  · exact Text.mem_of_mem_trim member

theorem Entry.template_avoids (marker : c ∈ markers) {entry : Entry}
    (plain : ∀ sql ∈ entry.verbatim, c ∉ sql.toList)
    : entry.template.Avoids c := by
  cases entry with
  | predicate predicate => exact Predicate.template_avoids marker plain
  | raw sql =>
      refine (Template.avoids_cons _ _ _).mpr ⟨?_, Template.avoids_nil c⟩
      intro member
      rw [String.toList_ofList] at member
      exact plain sql (List.mem_singleton.mpr rfl) (Entry.mem_of_mem_dropConnector member)

theorem Criteria.template_avoids (marker : c ∈ markers) {criteria : Criteria}
    (plain : ∀ sql ∈ criteria.verbatim, c ∉ sql.toList)
    : criteria.template.Avoids c := by
  have entryAvoids (entry : Entry) (listed : entry ∈ criteria.written)
      : entry.template.Avoids c :=
    Entry.template_avoids marker fun sql member =>
      plain sql (List.mem_flatMap.mpr ⟨entry, (List.mem_filter.mp listed).1, member⟩)
  rw [Criteria.template]
  split
  · exact Template.avoids_nil c
  · rename_i first rest written
    rw [written] at entryAvoids
    obtain ⟨head, tail⟩ := List.forall_mem_cons.mp entryAvoids
    refine (Template.avoids_append _ _ _).mpr ⟨head, ?_⟩
    intro piece member
    obtain ⟨entry, listed, member⟩ := List.mem_flatMap.mp member
    exact avoids_text_cons marker (by cases entry.connector <;> decide) (tail entry listed)
      piece member

-----------------------------------------------------------------------------------------
-- Clauses and statements
-----------------------------------------------------------------------------------------

theorem SelectColumn.template_avoids (marker : c ∈ markers) {column : SelectColumn}
    (plain : ∀ sql ∈ column.expr.raw?, c ∉ sql.toList)
    : column.template.Avoids c := by
  obtain ⟨expr, columnAlias⟩ := column
  have word : (Piece.text " AS ").Avoids c := avoids_of_isUnmarked marker (by decide)
  have name (identifier : String) : (Piece.name identifier).Avoids c := trivial
  cases expr with
  | name column => cases columnAlias <;> simp [SelectColumn.template, word, name]
  | raw sql =>
      have absent : (Piece.text sql).Avoids c := plain sql rfl
      cases columnAlias <;> simp [SelectColumn.template, word, name, absent]

theorem Join.template_avoids (marker : c ∈ markers) {join : Join}
    (plain : ∀ sql ∈ join.condition, c ∉ sql.toList)
    : join.template.Avoids c := by
  have keyword : (Piece.text (join.kind.keyword ++ " ")).Avoids c :=
    avoids_of_isUnmarked marker (by cases join.kind <;> decide)
  have blank : (Piece.text " ").Avoids c := avoids_of_isUnmarked marker (by decide)
  have onText (sql : String) (conditional : join.condition = some sql)
      : (Piece.text (" ON " ++ sql)).Avoids c := by
    have word : (Piece.text " ON ").Avoids c := avoids_of_isUnmarked marker (by decide)
    have absent := plain sql conditional
    simp only [Piece.Avoids, String.toList_append, List.mem_append, not_or] at word ⊢
    exact ⟨word, absent⟩
  have name (identifier : String) : (Piece.name identifier).Avoids c := trivial
  cases aliased : join.tableAlias <;> cases conditional : join.condition <;>
    simp [Join.template, aliased, conditional, keyword, blank, name, onText]

namespace Query

variable {query : Query}

theorem selectList_avoids (marker : c ∈ markers)
    (plain : ∀ sql ∈ query.columns.filterMap (·.expr.raw?), c ∉ sql.toList)
    : query.selectList.Avoids c := by
  rw [selectList]
  split
  · exact avoids_text_cons marker (by decide) (Template.avoids_nil c)
  · refine .join_map (avoids_of_isUnmarked marker (by decide)) ?_
    intro column member
    exact SelectColumn.template_avoids marker fun sql raw =>
      plain sql (List.mem_filterMap.mpr ⟨column, member, raw⟩)

theorem sortList_avoids (marker : c ∈ markers) : query.sortList.Avoids c := by
  refine .join_map (avoids_of_isUnmarked marker (by decide)) ?_
  intro (column, direction) _
  refine (Template.avoids_cons _ _ _).mpr ⟨trivial, ?_⟩
  exact avoids_text_cons marker (by cases direction <;> decide) (Template.avoids_nil c)

theorem valueList_avoids (marker : c ∈ markers)
    (plain : ∀ sql ∈ query.values.filterMap (·.2.raw?), c ∉ sql.toList)
    : query.valueList.Avoids c := by
  refine .join_map (avoids_of_isUnmarked marker (by decide)) ?_
  intro (column, value) member
  exact Template.ofValue_avoids fun sql raw =>
    plain sql (List.mem_filterMap.mpr ⟨(column, value), member, raw⟩)

theorem assignmentList_avoids (marker : c ∈ markers)
    (plain : ∀ sql ∈ query.values.filterMap (·.2.raw?), c ∉ sql.toList)
    : query.assignmentList.Avoids c := by
  refine .join_map (avoids_of_isUnmarked marker (by decide)) ?_
  intro (column, value) member
  refine (Template.avoids_cons _ _ _).mpr ⟨trivial, avoids_text_cons marker (by decide) ?_⟩
  exact Template.ofValue_avoids fun sql raw =>
    plain sql (List.mem_filterMap.mpr ⟨(column, value), member, raw⟩)

/-- The words and numbers of the paging clauses are unmarked. -/
theorem paging_unmarked (keyword : String) (unmarked : isUnmarked keyword = true) (n : UInt64)
    : isUnmarked (keyword ++ toString n) = true := by
  have digits : isUnmarked (toString n) = true := isUnmarked_toString n.toNat
  rw [isUnmarked_append, unmarked, digits]
  rfl

theorem pagingText_unmarked {sql : String} (ok : query.pagingText = some sql)
    : isUnmarked sql = true := by
  obtain ⟨limit, _, rfl⟩ := Option.map_eq_some_iff.mp ok
  cases query.rowOffset? with
  | none => exact paging_unmarked "LIMIT " (by decide) limit
  | some offset =>
      have start := paging_unmarked "LIMIT " (by decide) offset
      have digits : isUnmarked (toString limit) = true := isUnmarked_toString limit.toNat
      simp only [isUnmarked_append, start, digits, Bool.and_true]
      decide

end Query

/-- A clause has only the characters among the markers that the verbatim texts of the query
have, by cases on the clause.
-/
theorem Clause.template_avoids (marker : c ∈ markers) {dialect : Dialect} {query : Query}
    {clause : Clause} {part : Template} (plain : ∀ sql ∈ query.verbatim, c ∉ sql.toList)
    (ok : clause.template dialect query = .ok (some part))
    : part.Avoids c := by
  simp only [Query.verbatim, List.forall_mem_append] at plain
  obtain ⟨⟨⟨⟨⟨⟨columns, values⟩, criteria⟩, having⟩, joins⟩, flags⟩, returning⟩ := plain
  have one {sql : String} (unmarked : isUnmarked sql = true)
      : (Template.ofText sql).Avoids c :=
    avoids_text_cons marker unmarked (Template.avoids_nil c)
  cases clause with
  | flags =>
      refine Template.nonBlank?_avoids ?_ (Except.ok.inj ok)
      refine (Template.avoids_cons _ _ _).mpr ⟨?_, Template.avoids_nil c⟩
      intro member
      rw [String.toList_intercalate] at member
      rcases Text.mem_intercalate member with blank | ⟨flag, listed, member⟩
      · exact avoids_of_isUnmarked marker (by decide : isUnmarked " " = true) blank
      · obtain ⟨sql, given, rfl⟩ := List.mem_map.mp listed
        exact flags sql given member
  | columns =>
      exact Option.some.inj (Except.ok.inj ok) ▸ Query.selectList_avoids marker columns
  | source =>
      refine Option.some.inj (Except.ok.inj ok) ▸ avoids_text_cons marker (by decide) ?_
      exact (Template.avoids_cons _ _ _).mpr ⟨trivial, Template.avoids_nil c⟩
  | tableAlias =>
      obtain ⟨_, _, rfl⟩ := Option.map_eq_some_iff.mp (Except.ok.inj ok)
      exact (Template.avoids_cons _ _ _).mpr ⟨trivial, Template.avoids_nil c⟩
  | table =>
      refine Option.some.inj (Except.ok.inj ok) ▸ ?_
      exact (Template.avoids_cons _ _ _).mpr ⟨trivial, Template.avoids_nil c⟩
  | joins =>
      refine Template.nonBlank?_avoids ?_ (Except.ok.inj ok)
      refine .join_map (avoids_of_isUnmarked marker (by decide)) ?_
      intro join member
      exact Join.template_avoids marker fun sql condition =>
        joins sql (List.mem_filterMap.mpr ⟨join, member, condition⟩)
  | criteria =>
      exact Template.headed_avoids marker (by decide)
        (Criteria.template_avoids marker criteria) (Except.ok.inj ok)
  | groupBy =>
      exact Template.headed_avoids marker (by decide)
        (Template.ofNames_avoids marker query.group) (Except.ok.inj ok)
  | having =>
      exact Template.headed_avoids marker (by decide)
        (Criteria.template_avoids marker having) (Except.ok.inj ok)
  | orderBy =>
      exact Template.headed_avoids marker (by decide) (Query.sortList_avoids marker)
        (Except.ok.inj ok)
  | limit | offset =>
      obtain ⟨n, _, rfl⟩ := Option.map_eq_some_iff.mp (Except.ok.inj ok)
      exact one (Query.paging_unmarked _ (by decide) n)
  | limitOffset =>
      obtain ⟨sql, paging, rfl⟩ := Option.map_eq_some_iff.mp (Except.ok.inj ok)
      exact one (Query.pagingText_unmarked paging)
  | returning =>
      obtain ⟨sql, returned, headed⟩ := Option.bind_eq_some_iff.mp (Except.ok.inj ok)
      refine Template.headed_avoids marker (by decide) ?_ headed
      refine (Template.avoids_cons _ _ _).mpr ⟨?_, Template.avoids_nil c⟩
      exact returning sql (Option.mem_toList.mpr returned)
  | lock => exact lock_ok ok ▸ one (by decide)
  | insertColumns =>
      exact Template.enclosed_avoids marker (by decide) (Template.ofNames_avoids marker _)
        (insertColumns_ok ok)
  | insertValues =>
      exact Template.enclosed_avoids marker (by decide)
        (Query.valueList_avoids marker values) (Except.ok.inj ok)
  | updateSet =>
      exact Template.headed_avoids marker (by decide)
        (Query.assignmentList_avoids marker values) (updateSet_ok ok)

/-- A statement has a marker outside its identifiers and placeholders only if a verbatim text
of the query has it.
-/
theorem Compiler.template_avoids (marker : c ∈ markers) {compiler : Compiler}
    {kind : StatementKind} {query : Query} {template : Template}
    (plain : ∀ sql ∈ query.verbatim, c ∉ sql.toList)
    (ok : compiler.template kind query = .ok template)
    : template.Avoids c := by
  obtain ⟨parts, rfl, clauses⟩ := Compiler.template_ok ok
  refine .join (avoids_of_isUnmarked marker (by decide)) ?_
  intro part listed
  rcases List.mem_cons.mp listed with rfl | listed
  · exact avoids_text_cons marker (by cases kind <;> decide) (Template.avoids_nil c)
  · obtain ⟨clause, _, yields⟩ := clauses part listed
    exact Clause.template_avoids marker plain yields

end SqlCompiler
