import SqlCompiler.Proofs.Query.History
import SqlCompiler.Proofs.Sql.Grammar
import SqlCompiler.Proofs.Statement.Reading

/-! Whether two columns of a query are one in a statement. A query tells its columns apart as they
were written, before any dialect is known; a statement shows their quoted names, and those are equal
exactly if the columns stand for the same names in the dialect.
-/

namespace SqlCompiler

-----------------------------------------------------------------------------------------
-- Identifiers that are quoted alike
-----------------------------------------------------------------------------------------

namespace Sql

variable {quoteChar : Char} {left right : String}

/-- Two identifiers stand, segment by segment, for the same names. -/
def SameName (quoteChar : Char) (left right : String) : Prop :=
  ∃ items,
    List.Forall₂ (StandsFor quoteChar) (Identifier.segments quoteChar left.toList) items
    ∧ List.Forall₂ (StandsFor quoteChar) (Identifier.segments quoteChar right.toList) items

/-- A segment is quoted as the item that it stands for is written. -/
theorem StandsFor.write_eq {segment : List Char} {item : Lexeme}
    (standsFor : StandsFor quoteChar segment item)
    : item.write quoteChar = Identifier.quoteSegment quoteChar segment := by
  cases standsFor with
  | star => simp [Lexeme.write, Identifier.quoteSegment]
  | delimited content =>
      have delimited : Text.isDelimited quoteChar (Text.delimit quoteChar content) = true :=
        isDelimited_iff.mpr ⟨content, rfl⟩
      simp [Lexeme.write, Identifier.quoteSegment, delimited]
  | plain notStar notDelimited =>
      have plain : Text.isDelimited quoteChar segment = false := by
        refine Bool.eq_false_iff.mpr fun delimited => ?_
        obtain ⟨content, same⟩ := isDelimited_iff.mp delimited
        exact notDelimited content same
      simp [Lexeme.write, Identifier.quoteSegment, notStar, plain]

/-- Segments are quoted one by one as their items are written, by induction on the segments. -/
theorem map_write_of_standsFor {segments : List (List Char)} {items : List Lexeme}
    (standFor : List.Forall₂ (StandsFor quoteChar) segments items)
    : items.map (Lexeme.write quoteChar) = segments.map (Identifier.quoteSegment quoteChar) := by
  induction standFor with
  | nil => rfl
  | cons standsFor _ ih => rw [List.map_cons, List.map_cons, standsFor.write_eq, ih]

/-- Identifiers are quoted alike exactly if they stand for the same names: a quoted identifier is
read in one way only.
-/
theorem quote_eq_iff (notDot : quoteChar ≠ '.') (notStar : quoteChar ≠ '*')
    : Identifier.quote quoteChar left = Identifier.quote quoteChar right
      ↔ SameName quoteChar left right := by
  constructor
  · intro same
    have leftPath := isPath_quote quoteChar left
    have sameItems := (same ▸ leftPath).unique notDot notStar (isPath_quote quoteChar right)
    have standFor (name : String)
        : List.Forall₂ (StandsFor quoteChar) (Identifier.segments quoteChar name.toList)
            ((Identifier.segments quoteChar name.toList).map (item quoteChar)) :=
      List.forall₂_map_right_iff.mpr
        (List.forall₂_same.mpr fun segment _ => standsFor_item quoteChar segment)
    exact ⟨_, standFor left, sameItems ▸ standFor right⟩
  · rintro ⟨items, ofLeft, ofRight⟩
    rw [Identifier.quote, Identifier.quote, Identifier.quoteChars, Identifier.quoteChars,
      ← map_write_of_standsFor ofLeft, ← map_write_of_standsFor ofRight]

/-- Without quote characters a segment is the only one that stands for its name. -/
theorem StandsFor.segment_unique {segment other : List Char} {item : Lexeme}
    (plain : quoteChar ∉ segment) (otherPlain : quoteChar ∉ other)
    (standsFor : StandsFor quoteChar segment item) (otherFor : StandsFor quoteChar other item)
    : segment = other := by
  cases standsFor with
  | star => cases otherFor; rfl
  | delimited content => exact absurd List.mem_cons_self plain
  | plain =>
      cases otherFor with
      | delimited => exact absurd List.mem_cons_self otherPlain
      | plain => rfl

/-- Segments without quote characters are the only ones that stand for their names, by induction on
them.
-/
theorem segments_unique {segments others : List (List Char)} {items : List Lexeme}
    (plain : ∀ segment ∈ segments, quoteChar ∉ segment)
    (othersPlain : ∀ segment ∈ others, quoteChar ∉ segment)
    (standFor : List.Forall₂ (StandsFor quoteChar) segments items)
    (othersFor : List.Forall₂ (StandsFor quoteChar) others items)
    : segments = others := by
  induction standFor generalizing others with
  | nil => exact (List.forall₂_nil_right_iff.mp othersFor).symm
  | cons standsFor _ ih =>
      obtain ⟨other, rest, otherFor, restFor, rfl⟩ := List.forall₂_cons_right_iff.mp othersFor
      obtain ⟨first, behind⟩ := List.forall_mem_cons.mp plain
      obtain ⟨otherFirst, otherBehind⟩ := List.forall_mem_cons.mp othersPlain
      rw [standsFor.segment_unique first otherFirst otherFor, ih behind otherBehind restFor]

/-- Identifiers without quote characters stand for the same names only if they are the same. -/
theorem SameName.eq (same : SameName quoteChar left right) (plain : quoteChar ∉ left.toList)
    (otherPlain : quoteChar ∉ right.toList)
    : left = right := by
  obtain ⟨items, ofLeft, ofRight⟩ := same
  have whole (name : String)
      : List.intercalate ['.'] (Identifier.segments quoteChar name.toList) = name.toList :=
    intercalate_segmentsFrom quoteChar false name.toList
  have plainSegments {name : String} (plain : quoteChar ∉ name.toList)
      : ∀ segment ∈ Identifier.segments quoteChar name.toList, quoteChar ∉ segment := by
    intro segment listed inside
    exact plain (whole name ▸ Text.mem_intercalate_of_mem listed inside)
  have sameSegments :=
    segments_unique (plainSegments plain) (plainSegments otherPlain) ofLeft ofRight
  exact String.toList_injective (by rw [← whole left, ← whole right, sameSegments])

/-- Names are quoted apart exactly if no two of them stand for the same. -/
theorem nodup_map_quote_iff (notDot : quoteChar ≠ '.') (notStar : quoteChar ≠ '*')
    {names : List String}
    : (names.map (Identifier.quote quoteChar)).Nodup
      ↔ names.Pairwise fun left right => ¬ SameName quoteChar left right := by
  simp only [List.Nodup, List.pairwise_map, ← quote_eq_iff notDot notStar, ne_eq]

/-- Different names without quote characters are quoted apart. -/
theorem nodup_map_quote (notDot : quoteChar ≠ '.') (notStar : quoteChar ≠ '*')
    {names : List String} (nodup : names.Nodup) (plain : ∀ name ∈ names, quoteChar ∉ name.toList)
    : (names.map (Identifier.quote quoteChar)).Nodup := by
  rw [nodup_map_quote_iff notDot notStar]
  refine nodup.imp_of_mem fun left right differs same => ?_
  exact differs (same.eq (plain _ left) (plain _ right))

end Sql

-----------------------------------------------------------------------------------------
-- Columns of a query
-----------------------------------------------------------------------------------------

namespace Operation

open Sql

/-- After any operations a query has each assigned column once, as it was written, and the
statements that write its values show the quoted names of the columns. Two of these names are one
exactly if their columns stand for the same names in the dialect, so the names are all different
exactly if no two columns do. Columns without the quote character of the dialect never do.
-/
theorem run_names_columns (binder : Binder) (operations : List Operation) (dialect : Dialect)
    : let quoteChar := dialect.quoteChar
      let query := run (Query.withBinder binder) operations
      let columns := OrderedMap.keys query.values
      let names := columns.map (Identifier.quote quoteChar)
      OrderedMap.Retains (assignments operations) query.values
      ∧ (query.values ≠ []
        → Compiler.WritesValues dialect query names (query.values.map (·.2)))
      ∧ (∀ left right,
          Identifier.quote quoteChar left = Identifier.quote quoteChar right
          ↔ SameName quoteChar left right)
      ∧ (names.Nodup ↔ columns.Pairwise fun left right => ¬ SameName quoteChar left right)
      ∧ ((∀ column ∈ columns, quoteChar ∉ column.toList) → names.Nodup) := by
  intro quoteChar query columns names
  obtain ⟨notDot, notStar, -⟩ := dialect.quoteChar_spec
  have retains : OrderedMap.Retains (assignments operations) query.values :=
    retains_run binder operations
  exact ⟨retains, Compiler.writesValues dialect, fun _ _ => quote_eq_iff notDot notStar,
    nodup_map_quote_iff notDot notStar, nodup_map_quote notDot notStar retains.nodup⟩

/-- Columns that differ by case, by a blank or by a dot have names of their own. -/
theorem run_names_columns_plain
    : let operations :=
        [ .edit (.table "t"), .edit (.value "a" (.bind .null)), .edit (.value "A" (.raw "1")),
          .edit (.value "a.b" (.raw "2")), .edit (.value "a " (.raw "3")),
          .edit (.value "a" (.raw "4")) ]
      let query := run (Query.withBinder {}) operations
      let names := ["\"a\"", "\"A\"", "\"a\".\"b\"", "\"a \""]
      query.values ≠ []
      ∧ (∀ column ∈ OrderedMap.keys query.values, '"' ∉ column.toList)
      ∧ names.Nodup
      ∧ Compiler.WritesValues .pgsql query names [.raw "4", .raw "1", .raw "2", .raw "3"] := by
  intro operations query names
  have values
      : (run (Query.withBinder {}) operations).values
        = [("a", .raw "4"), ("A", .raw "1"), ("a.b", .raw "2"), ("a ", .raw "3")] := by
    decide +kernel
  have quoted
      : (OrderedMap.keys (run (Query.withBinder {}) operations).values).map
          (Identifier.quote Dialect.pgsql.quoteChar)
        = names := by
    rw [values]
    decide +kernel
  have assigned : (run (Query.withBinder {}) operations).values ≠ [] := by simp [values]
  have plain
      : ∀ column ∈ OrderedMap.keys (run (Query.withBinder {}) operations).values,
          '"' ∉ column.toList := by
    rw [values]
    decide +kernel
  obtain ⟨_, writes, _, _, apart⟩ := run_names_columns {} operations .pgsql
  have written := writes assigned
  have nodup := apart plain
  rw [quoted] at written nodup
  rw [values] at written
  exact ⟨assigned, plain, nodup, written⟩

/-- A column and its quoted form are two columns of a query, and an `INSERT` and an
`UPDATE` name it twice.
-/
theorem run_names_columns_twice
    : let operations :=
        [ .edit (.table "t"), .edit (.value "a" (.bind (.int 1))),
          .edit (.value "\"a\"" (.bind (.int 2))) ]
      let query := run (Query.withBinder {}) operations
      let compiler := Compiler.forDialect .pgsql
      ¬ ((OrderedMap.keys query.values).map
          (Identifier.quote Dialect.pgsql.quoteChar)).Nodup
      ∧ (compiler.compile .insert query).1
        = .ok
            { kind := .insert
              dialect := .pgsql
              sql := "INSERT INTO \"t\" ( \"a\", \"a\" ) VALUES ( :db_prep_1, :db_prep_2 )"
              bound := [⟨":db_prep_1", .int 1⟩, ⟨":db_prep_2", .int 2⟩] }
      ∧ (compiler.compile .update query).1
        = .ok
            { kind := .update
              dialect := .pgsql
              sql := "UPDATE \"t\" SET \"a\" = :db_prep_1, \"a\" = :db_prep_2"
              bound := [⟨":db_prep_1", .int 1⟩, ⟨":db_prep_2", .int 2⟩] } := by
  decide +kernel

end Operation

end SqlCompiler
