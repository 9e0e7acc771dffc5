import SqlCompiler.Proofs.Template.Spacing

/-! Every template that a statement is made of is spaced: whatever the query holds, its names,
values and verbatim texts are set apart by the words and signs in between.
-/

namespace SqlCompiler

namespace Template

theorem ofValue_spaced (column : String) (value : Value)
    : (ofValue column value).Spaced := by
  cases value <;> exact .singleton _

theorem ofValues_spaced (column : String) (values : List Value)
    : (ofValues column values).Spaced :=
  .join_map (by decide) (by decide) fun value _ => ofValue_spaced column value

theorem ofNames_spaced (names : List String) : (ofNames names).Spaced :=
  .join_map (by decide) (by decide) fun name _ => .singleton (.name name)

theorem nonBlank?_spaced {template part : Template} (h : template.Spaced)
    (ok : template.nonBlank? = some part)
    : part.Spaced := by
  rw [nonBlank?] at ok
  split at ok
  · cases ok
  · exact Option.some.inj ok ▸ h

theorem headed_spaced {template part : Template} {keyword : String} (h : template.Spaced)
    (ok : template.headed keyword = some part)
    : part.Spaced := by
  obtain ⟨inner, nonBlank, rfl⟩ := Option.map_eq_some_iff.mp ok
  exact .cons (by simp [Piece.endsApart, Sql.isGap]) (nonBlank?_spaced h nonBlank)

theorem enclosed_spaced {template part : Template} {opening : String} (h : template.Spaced)
    (ends : (Piece.text opening).endsApart = true)
    (ok : template.enclosed opening = some part)
    : part.Spaced := by
  obtain ⟨inner, nonBlank, rfl⟩ := Option.map_eq_some_iff.mp ok
  exact .cons ends ((nonBlank?_spaced h nonBlank).append (by decide) (.singleton _))

end Template

-----------------------------------------------------------------------------------------
-- Criteria
-----------------------------------------------------------------------------------------

/-- A column is followed by the keyword of its relation, set apart on both sides. -/
theorem spaced_relation (column : String) {keyword : String} {operand : Template}
    (starts : (Piece.text keyword).startsApart = true)
    (ends : (Piece.text keyword).endsApart = true) (h : operand.Spaced)
    : Template.Spaced (.name column :: .text keyword :: operand) :=
  (Template.Spaced.singleton (.name column)).append starts (.cons ends h)

theorem Predicate.template_spaced (predicate : Predicate) : predicate.template.Spaced := by
  obtain ⟨column, relation, connector⟩ := predicate
  have list (values : List Value)
      : Template.Spaced (Template.ofValues column values ++ [.text " )"]) :=
    (Template.ofValues_spaced column values).append (by decide) (.singleton _)
  cases relation with
  | compare op value =>
      refine spaced_relation column ?_ ?_ (Template.ofValue_spaced column value) <;>
        cases op <;> decide
  | like pattern =>
      exact spaced_relation column (by decide) (by decide)
        (Template.ofValue_spaced column pattern)
  | isIn values =>
      cases values with
      | nil => exact .singleton _
      | cons value values =>
          exact spaced_relation column (by decide) (by decide) (list (value :: values))
  | notIn values =>
      cases values with
      | nil => exact .singleton _
      | cons value values =>
          exact spaced_relation column (by decide) (by decide) (list (value :: values))
  | between low high =>
      exact spaced_relation column (by decide) (by decide)
        ((Template.ofValue_spaced column low).append (by decide)
          (.cons (by decide) (Template.ofValue_spaced column high)))
  | isNull => exact (Template.Spaced.singleton _).append (by decide) (.singleton _)
  | isNotNull => exact (Template.Spaced.singleton _).append (by decide) (.singleton _)

theorem Entry.template_spaced (entry : Entry) : entry.template.Spaced := by
  cases entry with
  | predicate predicate => exact predicate.template_spaced
  | raw sql => exact .singleton _

/-- Criteria are spaced, by induction on the entries behind the first: each starts with its
connector, which blanks surround.
-/
theorem Criteria.template_spaced (criteria : Criteria) : criteria.template.Spaced := by
  have connected (entries : List Entry) {start : Template} (h : start.Spaced)
      : Template.Spaced (start ++ entries.flatMap Criteria.connected) := by
    induction entries generalizing start with
    | nil => simpa using h
    | cons entry entries ih =>
        rw [List.flatMap_cons, ← List.append_assoc]
        refine ih (h.append ?_ (.cons ?_ entry.template_spaced)) <;>
          cases entry.connector <;> decide
  rw [Criteria.template]
  split
  · exact .nil
  · exact connected _ (Entry.template_spaced _)

-----------------------------------------------------------------------------------------
-- Clauses and statements
-----------------------------------------------------------------------------------------

theorem SelectColumn.template_spaced (column : SelectColumn) : column.template.Spaced := by
  rw [SelectColumn.template]
  cases column.columnAlias with
  | none => exact .singleton _
  | some name =>
      exact (Template.Spaced.singleton _).append (by decide) (.cons (by decide) (.singleton _))

theorem Join.template_spaced (join : Join) : join.template.Spaced := by
  cases aliased : join.tableAlias <;> cases conditional : join.condition <;>
    simp [Join.template, Template.Spaced, Piece.Apart, Piece.startsApart, Piece.endsApart,
      Sql.isGap, aliased, conditional]

theorem Query.selectList_spaced (query : Query) : query.selectList.Spaced := by
  rw [Query.selectList]
  split
  · exact .singleton _
  · exact .join_map (by decide) (by decide) fun column _ => column.template_spaced

theorem Query.sortList_spaced (query : Query) : query.sortList.Spaced := by
  refine .join_map (by decide) (by decide) ?_
  intro (column, direction) _
  exact (Template.Spaced.singleton _).append (by cases direction <;> decide) (.singleton _)

theorem Query.valueList_spaced (query : Query) : query.valueList.Spaced := by
  refine .join_map (by decide) (by decide) ?_
  intro (column, value) _
  exact Template.ofValue_spaced column value

theorem Query.assignmentList_spaced (query : Query) : query.assignmentList.Spaced := by
  refine .join_map (by decide) (by decide) ?_
  intro (column, value) _
  exact spaced_relation column (by decide) (by decide) (Template.ofValue_spaced column value)

/-- Every clause is spaced, by cases on the clause. -/
theorem Clause.template_spaced {dialect : Dialect} {query : Query} {clause : Clause}
    {part : Template} (ok : clause.template dialect query = .ok (some part))
    : part.Spaced := by
  cases clause with
  | flags => exact Template.nonBlank?_spaced (.singleton _) (Except.ok.inj ok)
  | columns => exact Option.some.inj (Except.ok.inj ok) ▸ query.selectList_spaced
  | source =>
      exact Option.some.inj (Except.ok.inj ok) ▸ .cons (by decide) (.singleton _)
  | joins =>
      refine Template.nonBlank?_spaced ?_ (Except.ok.inj ok)
      exact .join_map (by decide) (by decide) fun join _ => join.template_spaced
  | criteria => exact Template.headed_spaced query.criteria.template_spaced (Except.ok.inj ok)
  | groupBy =>
      exact Template.headed_spaced (Template.ofNames_spaced query.group) (Except.ok.inj ok)
  | having => exact Template.headed_spaced query.having.template_spaced (Except.ok.inj ok)
  | orderBy => exact Template.headed_spaced query.sortList_spaced (Except.ok.inj ok)
  | returning =>
      obtain ⟨sql, _, headed⟩ := Option.bind_eq_some_iff.mp (Except.ok.inj ok)
      exact Template.headed_spaced (.singleton _) headed
  | tableAlias | limit | offset | limitOffset =>
      obtain ⟨_, _, rfl⟩ := Option.map_eq_some_iff.mp (Except.ok.inj ok)
      exact .singleton _
  | table => exact Option.some.inj (Except.ok.inj ok) ▸ .singleton _
  | lock => exact lock_ok ok ▸ .singleton _
  | insertColumns =>
      exact Template.enclosed_spaced (Template.ofNames_spaced _) (by decide)
        (insertColumns_ok ok)
  | insertValues =>
      exact Template.enclosed_spaced query.valueList_spaced (by decide) (Except.ok.inj ok)
  | updateSet => exact Template.headed_spaced query.assignmentList_spaced (updateSet_ok ok)

/-- The template of a statement is spaced. -/
theorem Compiler.template_spaced {compiler : Compiler} {kind : StatementKind} {query : Query}
    {template : Template} (ok : compiler.template kind query = .ok template)
    : template.Spaced := by
  obtain ⟨parts, rfl, clauses⟩ := Compiler.template_ok ok
  refine .join (by decide) (by decide) ?_
  intro part listed
  rcases List.mem_cons.mp listed with rfl | listed
  · exact .singleton _
  · obtain ⟨clause, _, yields⟩ := clauses part listed
    exact Clause.template_spaced yields

end SqlCompiler
