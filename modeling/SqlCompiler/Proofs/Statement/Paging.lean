import SqlCompiler.Proofs.Query.Count
import SqlCompiler.Proofs.Statement.Selection
import SqlCompiler.Proofs.Text.Phrase

/-! Limit and offset. The counts are all that a statement shows of them: it is the statement without
them and a clause from which the two numbers are read back, in every dialect that pages through
rows.
-/

namespace SqlCompiler

open Text

-----------------------------------------------------------------------------------------
-- Paging clauses
-----------------------------------------------------------------------------------------

namespace Dialect

/-- How a dialect writes a limit and an offset. Without an offset there is only the limit. -/
def pagingText (dialect : Dialect) (limit offset : UInt64) : String :=
  if offset = 0 then "LIMIT " ++ toString limit
  else if dialect = mysql then "LIMIT " ++ toString offset ++ ", " ++ toString limit
  else "LIMIT " ++ toString limit ++ " OFFSET " ++ toString offset

/-- The limit and the offset that a dialect reads from the words of a clause. Numbers stand there
without zeros in front.
-/
def pageOfWords? (dialect : Dialect) : List String → Option (Nat × Nat)
  | ["LIMIT", limit] => do return (← natural? limit.toList, 0)
  | ["LIMIT", offset, limit] =>
      if dialect = mysql ∧ offset.toList.getLast? = some ',' then do
        return (← natural? limit.toList, ← natural? offset.toList.dropLast)
      else none
  | ["LIMIT", limit, "OFFSET", offset] =>
      if dialect = mysql then none
      else do return (← natural? limit.toList, ← natural? offset.toList)
  | _ => none

/-- The limit and the offset that a dialect reads from a clause. -/
def page? (dialect : Dialect) (sql : String) : Option (Nat × Nat) :=
  dialect.pageOfWords? ((words sql.toList).map String.ofList)

theorem page?_intercalate (dialect : Dialect) {texts : List String}
    (areWords : ∀ text ∈ texts, IsWord text.toList)
    : dialect.page? (String.intercalate " " texts) = dialect.pageOfWords? texts := by
  have blank : isBlank ' ' = true := by decide
  have split := @words_intercalate (texts.map String.toList) ' ' blank (by simpa using areWords)
  simp [page?, String.toList_intercalate, split]

/-- The two numbers are read back from the clause, each from its place. -/
theorem page?_pagingText (dialect : Dialect) (limit offset : UInt64)
    : dialect.page? (dialect.pagingText limit offset) = some (limit.toNat, offset.toNat) := by
  have digits (n : UInt64) : (toString n).toList = Nat.toDigits 10 n.toNat := Nat.toList_repr
  have number (n : UInt64) : natural? (toString n).toList = some n.toNat :=
    natural?_eq_some_iff.mpr (digits n)
  have isWord (n : UInt64) : IsWord (toString n).toList :=
    digits n ▸ (isNumeral_toDigits n.toNat).isWord
  have isKeyword : IsWord "LIMIT".toList ∧ IsWord "OFFSET".toList := by decide
  have beforeComma : IsWord (toString offset ++ ",").toList := by
    have solid : Solid ",".toList := by decide
    rw [String.toList_append]
    exact ⟨by simp, List.forall_mem_append.mpr ⟨(isWord offset).solid, solid⟩⟩
  rw [pagingText]
  split
  case isTrue none =>
    have parts : "LIMIT " ++ toString limit = String.intercalate " " ["LIMIT", toString limit] := by
      simp
    rw [parts, page?_intercalate]
    · simp [pageOfWords?, number, none]
    · simp only [List.forall_mem_cons]
      exact ⟨isKeyword.1, isWord limit, List.forall_mem_nil _⟩
  split
  case isTrue isMysql =>
    have parts
        : "LIMIT " ++ toString offset ++ ", " ++ toString limit
          = String.intercalate " " ["LIMIT", toString offset ++ ",", toString limit] := by
      simp [String.append_assoc]
    rw [parts, page?_intercalate]
    · simp [pageOfWords?, number, isMysql]
    · simp only [List.forall_mem_cons]
      exact ⟨isKeyword.1, beforeComma, isWord limit, List.forall_mem_nil _⟩
  case isFalse isOther =>
    have parts
        : "LIMIT " ++ toString limit ++ " OFFSET " ++ toString offset
          = String.intercalate " " ["LIMIT", toString limit, "OFFSET", toString offset] :=
      String.toList_injective (by simp)
    rw [parts, page?_intercalate]
    · simp [pageOfWords?, number, isOther]
    · simp only [List.forall_mem_cons]
      exact ⟨isKeyword.1, isWord limit, isKeyword.2, isWord offset, List.forall_mem_nil _⟩

end Dialect

-----------------------------------------------------------------------------------------
-- Statements with and without paging
-----------------------------------------------------------------------------------------

/-- The paging clauses that a dialect writes of a query, one by one. -/
def Query.pagingTexts (dialect : Dialect) (query : Query) : List String :=
  match dialect with
  | .mysql => query.pagingText.toList
  | .pgsql | .generic =>
      (query.rowLimit?.map fun n => "LIMIT " ++ toString n).toList
        ++ (query.rowOffset?.map fun n => "OFFSET " ++ toString n).toList
  | .sqlite => []

namespace Query

/-- A limit of no rows pages through none. -/
theorem pagingTexts_unlimited (dialect : Dialect) {query : Query} (unlimited : query.limit = none)
    (atStart : query.offset = 0)
    : query.pagingTexts dialect = [] := by
  have limit : query.rowLimit? = none := by rw [rowLimit?, unlimited, Option.filter_none]
  have offset : query.rowOffset? = none := by simp [rowOffset?, atStart]
  cases dialect <;> simp [pagingTexts, pagingText, limit, offset]

/-- The paging clauses together are the limit and the offset as the dialect writes them. -/
theorem join_pagingTexts {dialect : Dialect} (pages : dialect ≠ .sqlite) {query : Query}
    {n : UInt64} (limited : query.limit = some n) (positive : 0 < n)
    : String.join ((query.pagingTexts dialect).map (" " ++ ·))
      = " " ++ dialect.pagingText n query.offset := by
  have limit : query.rowLimit? = some n := by simp [rowLimit?, limited, positive]
  have spaced (text : String) : " " ++ ("OFFSET " ++ text) = " OFFSET " ++ text :=
    String.toList_injective (by simp)
  by_cases atStart : query.offset = 0
  · have offset : query.rowOffset? = none := by simp [rowOffset?, atStart]
    cases dialect with
    | sqlite => exact absurd rfl pages
    | _ => simp [pagingTexts, pagingText, limit, offset, Dialect.pagingText, atStart]
  · have offset : query.rowOffset? = some query.offset := by
      simp [rowOffset?, UInt64.pos_iff_ne_zero, atStart]
    cases dialect with
    | sqlite => exact absurd rfl pages
    | _ =>
        simp [pagingTexts, pagingText, limit, offset, Dialect.pagingText, atStart,
          String.append_assoc, spaced]

/-- It is all one whether the paging clauses are written one by one or together. -/
theorem intercalate_pagingTexts {dialect : Dialect} (pages : dialect ≠ .sqlite) {query : Query}
    {n : UInt64} (limited : query.limit = some n) (positive : 0 < n) (verb : String)
    (front behind : List String)
    : String.intercalate " " (verb :: (front ++ query.pagingTexts dialect ++ behind))
      = String.intercalate " "
          (verb :: (front ++ dialect.pagingText n query.offset :: behind)) := by
  simp only [Text.intercalate_cons, List.map_append, List.map_cons, String.join_append,
    String.join_cons, join_pagingTexts pages limited positive, String.append_assoc]

end Query

namespace Compiler

theorem writeClauses_paging (dialect : Dialect) (query : Query) (binder : Binder)
    : (forDialect dialect).writeClauses query (Plan.paging dialect) binder
      = (.ok (query.pagingTexts dialect), binder) := by
  cases dialect with
  | mysql =>
      cases paging : query.pagingText <;>
        simp [Plan.paging, writeClauses, Clause.template, Query.pagingTexts, paging,
          Template.ofText, Template.fill, Except.map]
  | pgsql | generic =>
      cases limit : query.rowLimit? <;> cases offset : query.rowOffset? <;>
        simp [Plan.paging, writeClauses, Clause.template, Query.pagingTexts, limit, offset,
          Template.ofText, Template.fill, Except.map]
  | sqlite => rfl

/-- A row lock is written where there are some. -/
theorem writeClauses_lock {dialect : Dialect} (locks : dialect ≠ .sqlite) (query : Query)
    (binder : Binder)
    : (forDialect dialect).writeClauses query [.lock] binder
      = (.ok (if query.forUpdate then ["FOR UPDATE"] else []), binder) := by
  cases locked : query.forUpdate <;> cases dialect <;>
    simp_all [writeClauses, Clause.template, Dialect.supportsRowLocks, forDialect,
      Template.ofText, Template.fill, Except.map]

/-- Limit and offset decide the paging clauses of a `SELECT`, and nothing before or behind them. -/
theorem compile_select_paging {dialect : Dialect} (pages : dialect ≠ .sqlite) (query : Query)
    : ∃ (compiled : Compiled) (front : List String),
        ∀ (limit : Option UInt64) (offset : UInt64),
          let paged : Query := { query with limit, offset }
          ((forDialect dialect).compile .select paged).1
            = .ok
                { compiled with
                  sql :=
                    String.intercalate " "
                      ("SELECT"
                        :: (front ++ paged.pagingTexts dialect
                          ++ if query.forUpdate then ["FOR UPDATE"] else [])) } := by
  obtain ⟨behind, last, written⟩ :=
    @exists_compile_select dialect query fun sqlite => absurd sqlite pages
  rw [behindJoins, List.append_assoc] at written
  obtain ⟨between, middle, -, beforePaging, -, -⟩ :=
    writeClauses_append [.criteria, .groupBy, .having, .orderBy] written
  let compiled : Compiled :=
    { kind := .select
      dialect
      sql := ""
      bound := middle.bindings.drop query.binder.size }
  refine ⟨compiled, query.opening dialect.quoteChar ++ between, ?_⟩
  intro limit offset paged
  have same
      : (forDialect dialect).writeClauses paged [.criteria, .groupBy, .having, .orderBy]
            query.binder
          = (.ok between, middle) := by
    rw [← beforePaging]
    refine writeClauses_congr (fun clause listed => ?_) query.binder
    simp only [List.mem_cons, List.not_mem_nil, or_false] at listed
    rcases listed with rfl | rfl | rfl | rfl <;> rfl
  rw [compile_select, behindJoins, List.append_assoc, writeClauses_append_of_ok same,
    writeClauses_append_of_ok (writeClauses_paging dialect paged middle),
    writeClauses_lock pages]
  simp only [Except.map, List.append_assoc, compiled]
  rfl

/-- A text is a count exactly if it is a numeral of a number of sixty-four bits, with a plus sign in
front or without one and with any blanks around it; every other text is none. A `SELECT` shows of a
limit and an offset, whatever their types, the two counts alone: it is the statement without them
and one clause more, in which the dialect reads the same two numbers again, whichever of them it
writes first.
-/
theorem compile_pages {dialect : Dialect} (pages : dialect ≠ .sqlite) (query : Query)
    : (∀ (text : String) (n : UInt64),
        toCount? text = some n ↔ Count.IsWritten text.toList n.toNat)
      ∧ (∀ text : String,
          toCount? text = none ↔ ∀ n < UInt64.size, ¬ Count.IsWritten text.toList n)
      ∧ ∃ (compiled : Compiled) (front behind : List String),
          ((forDialect dialect).compile .select { query with limit := none, offset := 0 }).1
            = .ok
                { compiled with
                  sql := String.intercalate " " ("SELECT" :: (front ++ behind)) }
          ∧ ∀ {α β : Type} [ToCount α] [ToCount β] (limit : α) (offset : β) (n : UInt64),
              toCount? limit = some n
              → 0 < n
              → let skipped := (toCount? offset).getD 0
                let clause := dialect.pagingText n skipped
                ((forDialect dialect).compile .select
                    ((query.setLimit limit).setOffset offset)).1
                  = .ok
                      { compiled with
                        sql :=
                          String.intercalate " " ("SELECT" :: (front ++ clause :: behind)) }
                ∧ dialect.page? clause = some (n.toNat, skipped.toNat) := by
  obtain ⟨compiled, front, writes⟩ := compile_select_paging pages query
  refine ⟨fun text n => Count.ofText?_eq_some_iff, fun text => Count.ofText?_eq_none_iff, compiled,
    front, if query.forUpdate then ["FOR UPDATE"] else [], ?without, ?paged⟩
  case without =>
    rw [writes none 0, Query.pagingTexts_unlimited dialect rfl rfl, List.append_nil]
  case paged =>
    intro α β _ _ limit offset n limited positive skipped clause
    let paged := (query.setLimit limit).setOffset offset
    refine ⟨(writes (toCount? limit) skipped).trans ?_, dialect.page?_pagingText n skipped⟩
    refine congrArg (fun sql => Except.ok { compiled with sql }) ?_
    exact paged.intercalate_pagingTexts pages limited positive "SELECT" front _

/-- A limit with a sign, zeros and blanks, and an offset that may be absent: MySQL writes the offset
first.
-/
theorem compile_pages_digits
    : let query : Query :=
        { table := "t"
          criteria := ⟨[.predicate ⟨"a", .compare .eq (.bind (.text "LIMIT 1")), .and⟩]⟩
          forUpdate := true }
      let limit := "\u00a0+007 "
      let offset : Option Int32 := some 20
      let paged := (query.setLimit limit).setOffset offset
      let sql :=
        "SELECT * FROM \x60t\x60 WHERE \x60a\x60 = :db_prep_1 LIMIT 20, 7 FOR UPDATE"
      Dialect.mysql ≠ .sqlite
      ∧ toCount? limit = some 7
      ∧ 0 < (7 : UInt64)
      ∧ ((forDialect .mysql).compile .select paged).1.map (·.sql) = .ok sql
      ∧ Dialect.mysql.page? "LIMIT 20, 7" = some (7, 20) := by
  intro query limit offset paged sql
  have pages : Dialect.mysql ≠ .sqlite := by decide
  have isLimit : toCount? limit = some 7 := by decide +kernel
  have clause : Dialect.mysql.pagingText 7 20 = "LIMIT 20, 7" := by decide +kernel
  obtain ⟨-, -, _, _, _, -, writes⟩ := compile_pages pages query
  obtain ⟨-, reads⟩ := writes limit offset 7 isLimit (by decide)
  exact ⟨pages, isLimit, by decide, by decide +kernel, clause ▸ reads⟩

end Compiler

end SqlCompiler
