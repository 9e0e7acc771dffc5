import SqlCompiler.Proofs.Sql.Skeleton
import SqlCompiler.Proofs.Statement.Reading
import SqlCompiler.Proofs.Statement.Relabelling

/-! Identifiers have no part in the structure of a statement: queries that differ in them alone
are compiled to texts with one skeleton.
-/

namespace SqlCompiler

open Sql

/-- Forgets every identifier and keeps the values to bind. -/
def Relabelling.names : Relabelling where
  rename _ := ""
  rebind := id

/-- The query without its identifiers; whether there is an alias still shows. -/
def Query.withoutNames (query : Query) : Query :=
  Relabelling.names.query query

-----------------------------------------------------------------------------------------
-- The skeleton of a template
-----------------------------------------------------------------------------------------

namespace Template

/-- The skeleton of a rendered template: one symbol for every identifier. -/
def skeleton (placeholderPrefix : String) : (number : Nat) → Template → List Symbol
  | _, [] => []
  | number, .text sql :: rest =>
      skeletonOf (sql.toList.map .char) ++ skeleton placeholderPrefix number rest
  | number, .name _ :: rest => .path :: skeleton placeholderPrefix number rest
  | number, .slot _ _ :: rest =>
      skeletonOf ((Binder.placeholder placeholderPrefix number).toList.map .char)
        ++ skeleton placeholderPrefix (number + 1) rest

theorem skeleton_names (placeholderPrefix : String) (number : Nat) (template : Template)
    : (Relabelling.names.template template).skeleton placeholderPrefix number
      = template.skeleton placeholderPrefix number := by
  induction template generalizing number with
  | nil => rfl
  | cons piece rest ih =>
      cases piece with
      | text sql => exact congrArg (_ ++ ·) (ih number)
      | name identifier => exact congrArg (_ :: ·) (ih number)
      | slot column value => exact congrArg (_ ++ ·) (ih (number + 1))

/-- In a spaced template no path reaches from one piece into the next. -/
theorem Spaced.skeletonOf_append {piece : Piece} {rest : Template} (h : Spaced (piece :: rest))
    {before : List Lexeme} (quoteChar : Char) (placeholderPrefix : String) (number : Nat)
    (reads : piece.endsApart = true → ∃ start gap, before = start ++ [gap] ∧ gap.isGap = true)
    : skeletonOf (before ++ rest.lexemes quoteChar placeholderPrefix number)
      = skeletonOf before
        ++ skeletonOf (rest.lexemes quoteChar placeholderPrefix number) := by
  cases ends : piece.endsApart with
  | true =>
      obtain ⟨start, gap, rfl, isGap⟩ := reads ends
      rw [List.append_assoc]
      exact skeletonOf_gap_append start isGap _
  | false =>
      apply skeletonOf_append_gap
      rcases h.next ends with rfl | ⟨c, text, after, gap, rfl⟩
      · simp [lexemes]
      · simpa [lexemes, Lexeme.isGap] using gap

/-- The lexemes of a spaced template have its skeleton, by induction on the pieces. -/
theorem Spaced.skeletonOf_lexemes {template : Template} (h : template.Spaced)
    (quoteChar : Char) (placeholderPrefix : String) (number : Nat)
    : skeletonOf (template.lexemes quoteChar placeholderPrefix number)
      = template.skeleton placeholderPrefix number := by
  induction template generalizing number with
  | nil => rfl
  | cons piece rest ih =>
      cases piece with
      | text sql =>
          have reads (ends : (Piece.text sql).endsApart = true)
              : ∃ start gap,
                  sql.toList.map Lexeme.char = start ++ [gap] ∧ gap.isGap = true := by
            cases last : sql.toList.getLast? with
            | none => simp [Piece.endsApart, last] at ends
            | some c =>
                refine ⟨sql.toList.dropLast.map .char, .char c, ?_, ?_⟩
                · rw [← List.dropLast_append_getLast? c last]
                  simp
                · simpa [Piece.endsApart, last, Lexeme.isGap] using ends
          rw [lexemes, skeleton, h.skeletonOf_append quoteChar placeholderPrefix number reads,
            ih h.tail]
      | name identifier =>
          have solid : (Piece.name identifier).endsApart ≠ true := Bool.false_ne_true
          rw [lexemes, skeleton,
            h.skeletonOf_append quoteChar placeholderPrefix number (absurd · solid),
            skeletonOf_path, ih h.tail, List.singleton_append]
      | slot column value =>
          have solid : (Piece.slot column value).endsApart ≠ true := Bool.false_ne_true
          rw [lexemes, skeleton,
            h.skeletonOf_append quoteChar placeholderPrefix (number + 1) (absurd · solid),
            ih h.tail]

end Template

-----------------------------------------------------------------------------------------
-- Verbatim texts
-----------------------------------------------------------------------------------------

namespace Relabelling

variable (r : Relabelling)

theorem raw?_value (value : Value) : (r.value value).raw? = value.raw? := by
  cases value <;> rfl

theorem verbatim_entry (entry : Entry) : (r.entry entry).verbatim = entry.verbatim := by
  have raws (values : List Value)
      : (values.map r.value).filterMap Value.raw? = values.filterMap Value.raw? := by
    rw [List.filterMap_map]
    exact List.filterMap_congr fun value _ => r.raw?_value value
  cases entry with
  | raw sql => rfl
  | predicate predicate =>
      obtain ⟨column, relation, connector⟩ := predicate
      cases relation with
      | compare op value => exact raws [value]
      | isIn values => exact raws values
      | notIn values => exact raws values
      | between low high => exact raws [low, high]
      | like pattern => exact raws [pattern]
      | isNull => rfl
      | isNotNull => rfl

theorem verbatim_criteria (criteria : Criteria)
    : (r.criteria criteria).verbatim = criteria.verbatim := by
  rw [Criteria.verbatim, Criteria.verbatim, Relabelling.criteria, List.flatMap_map]
  exact List.flatMap_congr fun entry _ => r.verbatim_entry entry

/-- Relabelling leaves the verbatim texts of a query alone. -/
theorem verbatim_query (query : Query) : (r.query query).verbatim = query.verbatim := by
  have columns
      : (query.columns.map r.column).filterMap (·.expr.raw?)
        = query.columns.filterMap (·.expr.raw?) := by
    rw [List.filterMap_map]
    refine List.filterMap_congr fun column _ => ?_
    obtain ⟨expr, columnAlias⟩ := column
    cases expr <;> rfl
  have values
      : (r.query query).values.filterMap (·.2.raw?) = query.values.filterMap (·.2.raw?) := by
    rw [Relabelling.query, List.filterMap_map]
    exact List.filterMap_congr fun pair _ => r.raw?_value pair.2
  have joins
      : (query.joins.map r.join).filterMap (·.condition)
        = query.joins.filterMap (·.condition) := by
    rw [List.filterMap_map]
    rfl
  rw [Query.verbatim, values]
  simp only [Query.verbatim, Relabelling.query, columns, joins, verbatim_criteria]

end Relabelling

-----------------------------------------------------------------------------------------
-- The skeleton of a statement
-----------------------------------------------------------------------------------------

/-- A compiled statement has the skeleton of its template. -/
theorem Compiler.skeleton?_compile {dialect : Dialect} {kind : StatementKind}
    {query : Query} {compiled : Compiled}
    (valid : isPlaceholderPrefix query.binder.placeholderPrefix = true)
    (plain : ∀ sql ∈ query.verbatim, dialect.quoteChar ∉ sql.toList)
    (ok : ((forDialect dialect).compile kind query).1 = .ok compiled)
    : ∃ template,
        (forDialect dialect).template kind query = .ok template
        ∧ skeleton? dialect.quoteChar compiled.sql
          = some
              (template.skeleton query.binder.placeholderPrefix query.binder.counter) := by
  obtain ⟨template, templateOk, sql, _, _⟩ := compile_ok (Prod.ext ok rfl)
  refine ⟨template, templateOk, ?_⟩
  rw [skeleton?, sql, forDialect, lexemes?_compile templateOk valid plain, Option.map_some,
    (template_spaced templateOk).skeletonOf_lexemes]

/-- Two queries that differ only in identifiers, each optional one present in both or in
neither, are compiled to texts with one skeleton, and both texts end outside delimited
identifiers. The verbatim texts must be free of delimiters; identifiers may hold any.
-/
theorem Compiler.compile_skeleton {dialect : Dialect} {kind : StatementKind}
    {left right : Query} {compiledLeft compiledRight : Compiled}
    (same : left.withoutNames = right.withoutNames)
    (valid : isPlaceholderPrefix left.binder.placeholderPrefix = true)
    (plain : ∀ sql ∈ left.verbatim, dialect.quoteChar ∉ sql.toList)
    (okLeft : ((forDialect dialect).compile kind left).1 = .ok compiledLeft)
    (okRight : ((forDialect dialect).compile kind right).1 = .ok compiledRight)
    : ∃ skeleton,
        skeleton? dialect.quoteChar compiledLeft.sql = some skeleton
        ∧ skeleton? dialect.quoteChar compiledRight.sql = some skeleton := by
  have sameBinder : left.withoutNames.binder = right.withoutNames.binder :=
    congrArg Query.binder same
  change left.binder = right.binder at sameBinder
  have sameVerbatim : left.verbatim = right.verbatim := by
    have erased := congrArg Query.verbatim same
    rwa [Query.withoutNames, Query.withoutNames, Relabelling.verbatim_query,
      Relabelling.verbatim_query] at erased
  obtain ⟨leftTemplate, leftOk, leftSkeleton⟩ := skeleton?_compile valid plain okLeft
  obtain ⟨rightTemplate, rightOk, rightSkeleton⟩ :=
    skeleton?_compile (sameBinder ▸ valid) (sameVerbatim ▸ plain) okRight
  have sameTemplate
      : Relabelling.names.template leftTemplate = Relabelling.names.template rightTemplate := by
    have erased := congrArg ((forDialect dialect).template kind) same
    rw [Query.withoutNames, Query.withoutNames, Relabelling.template_query,
      Relabelling.template_query, leftOk, rightOk] at erased
    exact Except.ok.inj erased
  refine ⟨_, leftSkeleton, ?_⟩
  rw [rightSkeleton, ← sameBinder, ← Template.skeleton_names _ _ rightTemplate,
    ← sameTemplate, Template.skeleton_names]

/-- A column that closes its delimiter and goes on in SQL leaves the skeleton of a plain one,
and so does a path with a star for a single segment.
-/
theorem Compiler.compile_skeleton_hostile
    : let query (table column : String) : Query :=
        { table
          columns := [⟨.name column, some "n"⟩]
          criteria := ⟨[.predicate ⟨column, .compare .eq (.bind (.bool true)), .and⟩]⟩
          returning := some "x > 0" }
      let compile (query : Query) := ((forDialect .generic).compile .select query).1
      let compiled (sql : String) : Compiled :=
        { kind := .select
          dialect := .generic
          sql
          bound := [⟨":db_prep_1", .bool true⟩] }
      let plain :=
        compiled "SELECT \"a\" AS \"n\" FROM \"t\" WHERE \"a\" = :db_prep_1"
      let hostile :=
        compiled
          ("SELECT \"a\"\" IS NOT NULL OR \"\"b\" AS \"n\" FROM \"s.--\".*"
            ++ " WHERE \"a\"\" IS NOT NULL OR \"\"b\" = :db_prep_1")
      (query "t" "a").withoutNames
        = (query "\"s.--\".*" "a\" IS NOT NULL OR \"b").withoutNames
      ∧ isPlaceholderPrefix (query "t" "a").binder.placeholderPrefix = true
      ∧ (∀ sql ∈ (query "t" "a").verbatim, Dialect.generic.quoteChar ∉ sql.toList)
      ∧ compile (query "t" "a") = .ok plain
      ∧ compile (query "\"s.--\".*" "a\" IS NOT NULL OR \"b") = .ok hostile
      ∧ ∃ skeleton,
          skeleton? Dialect.generic.quoteChar plain.sql = some skeleton
          ∧ skeleton? Dialect.generic.quoteChar hostile.sql = some skeleton := by
  intro query compile compiled plain hostile
  have same
      : (query "t" "a").withoutNames
        = (query "\"s.--\".*" "a\" IS NOT NULL OR \"b").withoutNames :=
    rfl
  have valid : isPlaceholderPrefix (query "t" "a").binder.placeholderPrefix = true := by
    decide
  have free
      : ∀ sql ∈ (query "t" "a").verbatim, Dialect.generic.quoteChar ∉ sql.toList := by
    decide
  have okPlain : compile (query "t" "a") = .ok plain := by decide +kernel
  have okHostile : compile (query "\"s.--\".*" "a\" IS NOT NULL OR \"b") = .ok hostile := by
    decide +kernel
  exact ⟨same, valid, free, okPlain, okHostile,
    compile_skeleton same valid free okPlain okHostile⟩

end SqlCompiler
