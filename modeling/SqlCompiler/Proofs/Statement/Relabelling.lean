import SqlCompiler.Proofs.Template.Filling
import SqlCompiler.Proofs.Text.Intercalate

/-! Relabelling replaces the identifiers of a query and the values it binds, each by what a
function makes of it. The template of a relabelled query is the relabelled template, so neither
identifiers nor bound values decide what a template is made of.
-/

namespace SqlCompiler

/-- What becomes of identifiers and of bound values. -/
structure Relabelling where
  rename : String → String
  rebind : SqlValue → SqlValue

namespace Relabelling

variable (r : Relabelling)

-----------------------------------------------------------------------------------------
-- Relabelling queries and templates
-----------------------------------------------------------------------------------------

def value : Value → Value
  | .bind value => .bind (r.rebind value)
  | .raw sql => .raw sql

def relation : Relation → Relation
  | .compare op value => .compare op (r.value value)
  | .isIn values => .isIn (values.map r.value)
  | .notIn values => .notIn (values.map r.value)
  | .between low high => .between (r.value low) (r.value high)
  | .like pattern => .like (r.value pattern)
  | .isNull => .isNull
  | .isNotNull => .isNotNull

def entry : Entry → Entry
  | .predicate predicate =>
      .predicate
        { predicate with
          column := r.rename predicate.column
          relation := r.relation predicate.relation }
  | .raw sql => .raw sql

def criteria (criteria : Criteria) : Criteria :=
  ⟨criteria.entries.map r.entry⟩

def expr : ColumnExpr → ColumnExpr
  | .name column => .name (r.rename column)
  | .raw sql => .raw sql

def column (column : SelectColumn) : SelectColumn :=
  { expr := r.expr column.expr, columnAlias := column.columnAlias.map r.rename }

def join (join : Join) : Join :=
  { join with table := r.rename join.table, tableAlias := join.tableAlias.map r.rename }

/-- Keywords, numbers, verbatim texts and the binder stay as they are. -/
def query (query : Query) : Query :=
  { query with
    table := r.rename query.table
    tableAlias := query.tableAlias.map r.rename
    idColumn := query.idColumn.map r.rename
    columns := query.columns.map r.column
    values := query.values.map fun (column, value) => (r.rename column, r.value value)
    joins := query.joins.map r.join
    criteria := r.criteria query.criteria
    group := query.group.map r.rename
    having := r.criteria query.having
    order := query.order.map fun (column, direction) => (r.rename column, direction) }

def piece : Piece → Piece
  | .text sql => .text sql
  | .name identifier => .name (r.rename identifier)
  | .slot column value => .slot (r.rename column) (r.rebind value)

def template (template : Template) : Template :=
  template.map r.piece

-----------------------------------------------------------------------------------------
-- Templates of values
-----------------------------------------------------------------------------------------

theorem template_ofValue (column : String) (value : Value)
    : Template.ofValue (r.rename column) (r.value value)
      = r.template (Template.ofValue column value) := by
  cases value <;> rfl

theorem template_join (separator : String) (templates : List Template)
    : Template.join separator (templates.map r.template)
      = r.template (Template.join separator templates) :=
  (Text.map_intercalate r.piece [.text separator] templates).symm

/-- Templates that are relabelled one by one are relabelled when joined. -/
theorem template_join_map {α : Type} (separator : String) (items : List α)
    {before after : α → Template} (h : ∀ item, after item = r.template (before item))
    : Template.join separator (items.map after)
      = r.template (Template.join separator (items.map before)) := by
  rw [← template_join, List.map_map]
  congr 1
  exact List.map_congr_left fun item _ => h item

theorem template_ofValues (column : String) (values : List Value)
    : Template.ofValues (r.rename column) (values.map r.value)
      = r.template (Template.ofValues column values) := by
  rw [Template.ofValues, List.map_map]
  exact r.template_join_map ", " values (r.template_ofValue column)

theorem template_ofNames (names : List String)
    : Template.ofNames (names.map r.rename) = r.template (Template.ofNames names) := by
  rw [Template.ofNames, List.map_map]
  exact r.template_join_map ", " names fun _ => rfl

/-- Relabelling makes no template blank that is not, since identifiers and slots never are. -/
theorem isBlank_template (template : Template)
    : (r.template template).isBlank = template.isBlank := by
  rw [Relabelling.template, Template.isBlank, Template.isBlank, List.all_map]
  congr 1
  funext piece
  cases piece <;> rfl

theorem nonBlank?_template (template : Template)
    : (r.template template).nonBlank? = template.nonBlank?.map r.template := by
  rw [Template.nonBlank?, Template.nonBlank?, isBlank_template]
  split <;> rfl

theorem slotValues_template (template : Template)
    : (r.template template).slotValues = template.slotValues.map r.rebind := by
  induction template with
  | nil => rfl
  | cons piece rest ih =>
      cases piece with
      | text sql => exact ih
      | name identifier => exact ih
      | slot column value => exact congrArg (r.rebind value :: ·) ih

theorem headed_template (keyword : String) (template : Template)
    : (r.template template).headed keyword = (template.headed keyword).map r.template := by
  rw [Template.headed, Template.headed, nonBlank?_template, Option.map_map, Option.map_map]
  rfl

theorem enclosed_template (opening : String) (template : Template)
    : (r.template template).enclosed opening
      = (template.enclosed opening).map r.template := by
  rw [Template.enclosed, Template.enclosed, nonBlank?_template, Option.map_map,
    Option.map_map]
  congr 1
  funext inner
  simp [Relabelling.template, piece]

-----------------------------------------------------------------------------------------
-- Templates of criteria
-----------------------------------------------------------------------------------------

theorem template_entry (entry : Entry)
    : (r.entry entry).template = r.template entry.template := by
  cases entry with
  | raw sql => rfl
  | predicate predicate =>
      obtain ⟨column, relation, connector⟩ := predicate
      have list (values : List Value) (rest : Template)
          : Template.ofValues (r.rename column) (values.map r.value) ++ r.template rest
            = r.template (Template.ofValues column values ++ rest) := by
        rw [template_ofValues, Relabelling.template, Relabelling.template,
          Relabelling.template, List.map_append]
      cases relation with
      | isIn values =>
          cases values with
          | nil => rfl
          | cons value values =>
              exact congrArg (_ :: .text " IN ( " :: ·) (list (value :: values) [.text " )"])
      | notIn values =>
          cases values with
          | nil => rfl
          | cons value values =>
              exact congrArg (_ :: .text " NOT IN ( " :: ·)
                (list (value :: values) [.text " )"])
      | compare op value => cases value <;> rfl
      | like pattern => cases pattern <;> rfl
      | between low high => cases low <;> cases high <;> rfl
      | isNull => rfl
      | isNotNull => rfl

theorem written_criteria (criteria : Criteria)
    : (r.criteria criteria).written = criteria.written.map r.entry := by
  rw [Criteria.written, Criteria.written, Relabelling.criteria, List.filter_map]
  congr 1
  apply List.filter_congr
  intro entry _
  rw [Function.comp_apply, template_entry, isBlank_template]

theorem template_criteria (criteria : Criteria)
    : (r.criteria criteria).template = r.template criteria.template := by
  have connected (entry : Entry)
      : Criteria.connected (r.entry entry) = r.template (Criteria.connected entry) := by
    rw [Criteria.connected, template_entry]
    cases entry <;> rfl
  rw [Criteria.template, Criteria.template, written_criteria]
  cases criteria.written with
  | nil => rfl
  | cons first rest =>
      simp only [List.map_cons, Relabelling.template, List.map_append, List.map_flatMap,
        List.flatMap_map]
      rw [template_entry]
      congr 1
      exact List.flatMap_congr fun entry _ => connected entry

-----------------------------------------------------------------------------------------
-- Templates of clauses and statements
-----------------------------------------------------------------------------------------

theorem template_column (column : SelectColumn)
    : (r.column column).template = r.template column.template := by
  obtain ⟨expr, columnAlias⟩ := column
  cases expr <;> cases columnAlias <;> rfl

theorem template_joinClause (join : Join)
    : (r.join join).template = r.template join.template := by
  obtain ⟨kind, table, tableAlias, condition⟩ := join
  cases tableAlias <;> cases condition <;> rfl

theorem selectList_query (query : Query)
    : (r.query query).selectList = r.template query.selectList := by
  simp only [Query.selectList, Relabelling.query, List.isEmpty_map, List.map_map]
  split
  · rfl
  · exact r.template_join_map ", " query.columns r.template_column

theorem sortList_query (query : Query)
    : (r.query query).sortList = r.template query.sortList := by
  simp only [Query.sortList, Relabelling.query, List.map_map]
  exact r.template_join_map ", " query.order fun _ => rfl

theorem valueList_query (query : Query)
    : (r.query query).valueList = r.template query.valueList := by
  simp only [Query.valueList, Relabelling.query, List.map_map]
  exact r.template_join_map ", " query.values fun (column, value) =>
    r.template_ofValue column value

theorem assignmentList_query (query : Query)
    : (r.query query).assignmentList = r.template query.assignmentList := by
  simp only [Query.assignmentList, Relabelling.query, List.map_map]
  exact r.template_join_map ", " query.values fun (column, value) =>
    congrArg (_ :: _ :: ·) (r.template_ofValue column value)

theorem requireValues_query (query : Query) (kind : StatementKind)
    : requireValues (r.query query) kind = requireValues query kind := by
  simp only [requireValues, Relabelling.query, List.isEmpty_map]

theorem keys_query (query : Query)
    : OrderedMap.keys (r.query query).values
      = (OrderedMap.keys query.values).map r.rename := by
  simp only [OrderedMap.keys, Relabelling.query, List.map_map]
  rfl

/-- A clause of a relabelled query is relabelled, and it fails as before, by cases on the
clause.
-/
theorem template_clause (dialect : Dialect) (query : Query) (clause : Clause)
    : clause.template dialect (r.query query)
      = (clause.template dialect query).map (Option.map r.template) := by
  cases clause with
  | flags => exact congrArg Except.ok (r.nonBlank?_template (.ofText _))
  | columns => exact congrArg (Except.ok ∘ some) (r.selectList_query query)
  | source => rfl
  | tableAlias =>
      simp only [Clause.template, Relabelling.query]
      cases query.tableAlias <;> rfl
  | joins =>
      have joins := r.template_join_map " " query.joins r.template_joinClause
      simp only [Clause.template, Relabelling.query, List.map_map]
      exact congrArg Except.ok (joins ▸ r.nonBlank?_template _)
  | criteria =>
      simp only [Clause.template, Relabelling.query, template_criteria, headed_template]
      rfl
  | groupBy =>
      simp only [Clause.template, Relabelling.query, template_ofNames, headed_template]
      rfl
  | having =>
      simp only [Clause.template, Relabelling.query, template_criteria, headed_template]
      rfl
  | orderBy =>
      simp only [Clause.template, sortList_query, headed_template]
      rfl
  | limit | offset | limitOffset =>
      change Except.ok _ = Except.ok (Option.map _ _)
      rw [Option.map_map]
      rfl
  | returning =>
      simp only [Clause.template, Relabelling.query]
      cases query.returning with
      | none => rfl
      | some sql => exact congrArg Except.ok (r.headed_template "RETURNING" (.ofText sql))
  | lock =>
      have same : (r.query query).forUpdate = query.forUpdate := rfl
      cases locked : query.forUpdate <;> cases dialect <;>
        simp [Clause.template, same, locked, Except.map, Dialect.supportsRowLocks] <;> rfl
  | table => rfl
  | insertColumns =>
      simp only [Clause.template, requireValues_query, keys_query, template_ofNames,
        enclosed_template]
      cases requireValues query .insert <;> rfl
  | insertValues =>
      simp only [Clause.template, valueList_query, enclosed_template]
      rfl
  | updateSet =>
      simp only [Clause.template, requireValues_query, assignmentList_query, headed_template]
      cases requireValues query .update <;> rfl

/-- Translating a list commutes with relabelling the translations, by induction on the list. -/
theorem mapM_map {α β γ ε : Type} (f : α → Except ε β) (g : β → γ) (as : List α)
    : as.mapM (fun a => (f a).map g) = (as.mapM f).map (List.map g) := by
  induction as with
  | nil => rfl
  | cons a as ih =>
      simp only [List.mapM_cons, ih]
      rcases f a with error | b
      · rfl
      · rcases as.mapM f with error | bs <;> rfl

/-- The template of a relabelled query is the relabelled template, and there is none for the
same reason.
-/
theorem template_query (compiler : Compiler) (kind : StatementKind) (query : Query)
    : compiler.template kind (r.query query)
      = (compiler.template kind query).map r.template := by
  have clauses
      : (compiler.plan.clauses kind).mapM (Clause.template compiler.dialect (r.query query))
        = ((compiler.plan.clauses kind).mapM
            (Clause.template compiler.dialect query)).map (List.map (Option.map r.template)) := by
    rw [← mapM_map]
    congr 1
    funext clause
    exact r.template_clause compiler.dialect query clause
  have parts (found : List (Option Template))
      : (found.map (Option.map r.template)).filterMap id
        = (found.filterMap id).map r.template := by
    rw [List.filterMap_map, List.map_filterMap]
    rfl
  rw [Compiler.template, Compiler.template, clauses]
  cases (compiler.plan.clauses kind).mapM (Clause.template compiler.dialect query) with
  | error error => rfl
  | ok found =>
      refine congrArg Except.ok ?_
      rw [parts]
      exact r.template_join " " (.ofText kind.keyword :: found.filterMap id)

end Relabelling

end SqlCompiler
