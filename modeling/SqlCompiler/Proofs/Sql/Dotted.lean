import Mathlib.Logic.Function.Iterate
import SqlCompiler.Proofs.Sql.Segment

/-! Dotted identifiers and the texts that quoting leaves alone. A dot behind an even number of quote
characters separates, so the parts before and behind it are quoted on their own. What is quoted
already has only such dots between its items, and quoting it once more changes nothing.
-/

namespace SqlCompiler.Sql

open Text

variable {quoteChar : Char}

-----------------------------------------------------------------------------------------
-- Dots that separate
-----------------------------------------------------------------------------------------

theorem consToFirst_append (c : Char) {left : List (List Char)} (some : left ≠ [])
    (right : List (List Char))
    : Identifier.consToFirst c (left ++ right) = Identifier.consToFirst c left ++ right := by
  cases left with
  | nil => exact absurd rfl some
  | cons segment left => rfl

/-- A dot outside of quotations separates the segments before it from those behind it, by induction
on what is before it.
-/
theorem segmentsFrom_append_dot (notDot : quoteChar ≠ '.') {quoted : Bool} {front : List Char}
    (outside : isQuotedBehind quoteChar quoted front = false) (back : List Char)
    : Identifier.segmentsFrom quoteChar quoted (front ++ '.' :: back)
      = Identifier.segmentsFrom quoteChar quoted front
        ++ Identifier.segments quoteChar back := by
  induction front generalizing quoted with
  | nil =>
      obtain rfl : quoted = false := by simpa [isQuotedBehind] using outside
      simp [Identifier.segmentsFrom, Identifier.segments, notDot.symm]
  | cons c front ih =>
      rw [isQuotedBehind_cons] at outside
      have inFirst (quoted : Bool)
          : Identifier.consToFirst c
                (Identifier.segmentsFrom quoteChar quoted front
                  ++ Identifier.segments quoteChar back)
            = Identifier.consToFirst c (Identifier.segmentsFrom quoteChar quoted front)
              ++ Identifier.segments quoteChar back :=
        consToFirst_append c (segmentsFrom_ne_nil quoteChar quoted front) _
      rw [List.cons_append, Identifier.segmentsFrom, Identifier.segmentsFrom]
      by_cases isQuote : c = quoteChar
      · rw [if_pos isQuote] at outside
        rw [if_pos isQuote, if_pos isQuote, ih outside, inFirst]
      · rw [if_neg isQuote] at outside
        rw [if_neg isQuote, if_neg isQuote, ih outside]
        split
        · rfl
        · rw [inFirst]

/-- The parts around a dot that separates are quoted on their own. -/
theorem quoteChars_append_dot (notDot : quoteChar ≠ '.') {front : List Char}
    (even : front.count quoteChar % 2 = 0) (back : List Char)
    : Identifier.quoteChars quoteChar (front ++ '.' :: back)
      = Identifier.quoteChars quoteChar front ++ '.' :: Identifier.quoteChars quoteChar back := by
  have outside : isQuotedBehind quoteChar false front = false := by simp [isQuotedBehind, even]
  have segments := segmentsFrom_append_dot notDot outside back
  simp only [Identifier.quoteChars, Identifier.segments] at segments ⊢
  rw [segments, List.map_append, intercalate_append_of_ne_nil]
  · simp
  · simpa using segmentsFrom_ne_nil quoteChar false front
  · simpa using segmentsFrom_ne_nil quoteChar false back

theorem quote_append_dot (notDot : quoteChar ≠ '.') {front : String}
    (even : front.toList.count quoteChar % 2 = 0) (back : String)
    : Identifier.quote quoteChar (front ++ "." ++ back)
      = Identifier.quote quoteChar front ++ "." ++ Identifier.quote quoteChar back := by
  refine String.toList_injective ?_
  simpa [Identifier.quote] using quoteChars_append_dot notDot even back.toList

/-- An identifier is one segment, or its first segment ends at a dot that separates, by induction
on the identifier.
-/
theorem exists_firstSegment (quoteChar : Char) (quoted : Bool) (name : List Char)
    : ∃ segment,
        Identifier.segmentsFrom quoteChar quoted segment = [segment]
        ∧ (name = segment
          ∨ ∃ back,
              name = segment ++ '.' :: back
              ∧ isQuotedBehind quoteChar quoted segment = false) := by
  induction name generalizing quoted with
  | nil => exact ⟨[], rfl, .inl rfl⟩
  | cons c rest ih =>
      by_cases separates : c = '.' ∧ c ≠ quoteChar ∧ quoted = false
      · obtain ⟨rfl, -, rfl⟩ := separates
        exact ⟨[], rfl, .inr ⟨rest, rfl, by simp [isQuotedBehind]⟩⟩
      · obtain ⟨segment, single, ends⟩ := ih (if c = quoteChar then !quoted else quoted)
        refine ⟨c :: segment, ?single, ?ends⟩
        case single =>
          rw [Identifier.segmentsFrom]
          by_cases isQuote : c = quoteChar
          · rw [if_pos isQuote] at single ⊢
            rw [single, Identifier.consToFirst]
          · rw [if_neg isQuote] at single ⊢
            rw [if_neg (by simpa [isQuote] using separates), single, Identifier.consToFirst]
        case ends =>
          rw [isQuotedBehind_cons]
          rcases ends with rfl | ⟨back, rfl, outside⟩
          · exact .inl rfl
          · exact .inr ⟨back, rfl, outside⟩

-----------------------------------------------------------------------------------------
-- A table and a column
-----------------------------------------------------------------------------------------

variable {table : List Char}

/-- Behind a table that leaves a quotation open, the dot and the first segment of the column belong
to the name of the table.
-/
theorem segments_unclosed (notDot : quoteChar ≠ '.') (undotted : '.' ∉ table)
    (odd : table.count quoteChar % 2 = 1) {segment : List Char}
    (single : Identifier.segmentsFrom quoteChar true segment = [segment])
    : Identifier.segments quoteChar (table ++ '.' :: segment) = [table ++ '.' :: segment] := by
  have inside := (segmentsFrom_eq_singleton_iff notDot).mp single
  refine (segments_eq_singleton_iff notDot).mpr fun front back parts => ?_
  rcases List.append_eq_append_iff.mp parts with
    ⟨between, rfl, behind⟩ | ⟨between, isTable, behind⟩
  · cases between with
    | nil => simpa using odd
    | cons d between =>
        obtain ⟨rfl, rfl⟩ := List.cons.inj behind
        have even := inside between back rfl
        simp only [isQuotedBehind, Bool.true_bne, Bool.not_eq_true', beq_eq_false_iff_ne] at even
        simp only [List.count_append, List.count_cons_of_ne notDot.symm]
        omega
  · cases between with
    | nil => simpa [isTable] using odd
    | cons d between =>
        obtain ⟨rfl, -⟩ := List.cons.inj behind
        exact absurd (by simp [isTable]) undotted

theorem quote_unclosed_segment (notDot : quoteChar ≠ '.') (undotted : '.' ∉ table)
    (unopened : table.head? ≠ some quoteChar) (odd : table.count quoteChar % 2 = 1)
    {segment : List Char}
    (single : Identifier.segmentsFrom quoteChar true segment = [segment])
    : Identifier.quote quoteChar (String.ofList (table ++ '.' :: segment))
      = String.ofList (delimit quoteChar (table ++ '.' :: segment)) := by
  have some : table ≠ [] := by
    rintro rfl
    simp at odd
  refine quote_of_not_isDelimited (segments_unclosed notDot undotted odd single) ?notStar
    (isDelimited_eq_false ?unopened)
  case notStar =>
    intro star
    have dot : '.' ∈ ['*'] := star ▸ List.mem_append_right _ List.mem_cons_self
    simp at dot
  case unopened => rwa [List.head?_append_of_ne_nil _ some]

/-- A table that leaves a quotation open takes the dot and the column up to the first dot behind an
odd number of quote characters into its name; only what is behind that dot is quoted on its own.
-/
theorem quote_unclosed (notDot : quoteChar ≠ '.') {table : String}
    (undotted : '.' ∉ table.toList) (unopened : table.toList.head? ≠ some quoteChar)
    (odd : table.toList.count quoteChar % 2 = 1) (column : String)
    : ∃ segment : String,
        (∀ front back,
          segment.toList = front ++ '.' :: back → front.count quoteChar % 2 = 0)
        ∧ let name := String.ofList (delimit quoteChar (table ++ "." ++ segment).toList)
          (column = segment ∧ Identifier.quote quoteChar (table ++ "." ++ column) = name
          ∨ ∃ back,
              column = segment ++ "." ++ back
              ∧ segment.toList.count quoteChar % 2 = 1
              ∧ Identifier.quote quoteChar (table ++ "." ++ column)
                = name ++ "." ++ Identifier.quote quoteChar back) := by
  obtain ⟨segment, single, ends⟩ := exists_firstSegment quoteChar true column.toList
  have isName
      : Identifier.quote quoteChar (table ++ "." ++ String.ofList segment)
        = String.ofList (delimit quoteChar (table ++ "." ++ String.ofList segment).toList) := by
    simpa [String.ofList_append, String.append_assoc]
      using quote_unclosed_segment notDot undotted unopened odd single
  refine ⟨String.ofList segment, ?dots, ?parts⟩
  case dots =>
    intro front back parts
    rw [String.toList_ofList] at parts
    simpa [isQuotedBehind] using (segmentsFrom_eq_singleton_iff notDot).mp single front back parts
  case parts =>
    rcases ends with whole | ⟨back, parts, outside⟩
    · obtain rfl : column = String.ofList segment := by rw [← whole, String.ofList_toList]
      exact .inl ⟨rfl, isName⟩
    · obtain rfl : column = String.ofList segment ++ "." ++ String.ofList back :=
        String.toList_injective (by simpa using parts)
      have closes : segment.count quoteChar % 2 = 1 := by simpa [isQuotedBehind] using outside
      refine .inr ⟨String.ofList back, rfl, by simpa using closes, ?_⟩
      have even : (table ++ "." ++ String.ofList segment).toList.count quoteChar % 2 = 0 := by
        have dot : ".".toList.count quoteChar = 0 := by simp [notDot.symm]
        simp only [String.toList_append, String.toList_ofList, List.count_append, dot]
        omega
      rw [← isName, ← quote_append_dot notDot even]
      simp only [String.append_assoc]

/-- Behind a table that leaves a quotation open, the first name of the path is longer than the
table.
-/
theorem isPath_unclosed (notDot : quoteChar ≠ '.') {table : String} (undotted : '.' ∉ table.toList)
    (unopened : table.toList.head? ≠ some quoteChar)
    (odd : table.toList.count quoteChar % 2 = 1) (column : String)
    : ∃ segment items,
        IsPath quoteChar (Identifier.quote quoteChar (table ++ "." ++ column)).toList
          (.name (table.toList ++ '.' :: segment) :: items) := by
  obtain ⟨segment, -, ends⟩ := quote_unclosed notDot undotted unopened odd column
  have parts : (table ++ "." ++ segment).toList = table.toList ++ '.' :: segment.toList := by simp
  simp only [parts] at ends
  refine ⟨segment.toList, ?_⟩
  rcases ends with ⟨-, quoted⟩ | ⟨back, -, -, quoted⟩
  · rw [quoted, String.toList_ofList]
    exact ⟨_, .last (.name _)⟩
  · rw [quoted, String.toList_append, String.toList_append, String.toList_ofList,
      List.append_assoc]
    exact ⟨_, .dot (.name _) (isPath_quote quoteChar back)⟩

/-- A table is quoted apart from the column only if its quote characters are even in number: its
name is then the first one of the path, and no text is a path in two ways.
-/
theorem even_of_quote_eq (notDot : quoteChar ≠ '.') (notStar : quoteChar ≠ '*') {table : String}
    (undotted : '.' ∉ table.toList) (unopened : table.toList.head? ≠ some quoteChar)
    {column : String}
    (separate
      : Identifier.quote quoteChar (table ++ "." ++ column)
        = Identifier.quote quoteChar table ++ "." ++ Identifier.quote quoteChar column)
    : table.toList.count quoteChar % 2 = 0 := by
  rcases Nat.mod_two_eq_zero_or_one (table.toList.count quoteChar) with even | odd
  · exact even
  have bare : table.toList ≠ ['*'] := by
    intro star
    simp [star, notStar.symm] at odd
  have isTable := quote_undotted notDot undotted unopened bare
  rw [String.ofList_toList] at isTable
  have byTable := IsPath.dot (.name table.toList) (isPath_quote quoteChar column)
  obtain ⟨segment, items, bySegment⟩ := isPath_unclosed notDot undotted unopened odd column
  rw [separate, isTable, String.toList_append, String.toList_append, String.toList_ofList,
    List.append_assoc] at bySegment
  have names := Lexeme.name.inj (List.cons.inj (byTable.unique notDot notStar bySegment)).1
  have lengths := congrArg List.length names
  simp at lengths

/-- For a table that has no dot and does not start with a quote character, a dotted name is quoted
part by part exactly if the quote characters of the table are even in number. If they are odd, the
dot counts as one inside of a quotation although the table is none: the table and the column up to
the first dot behind an odd number of quote characters are one name.
-/
theorem quote_dotted (notDot : quoteChar ≠ '.') (notStar : quoteChar ≠ '*') {table : String}
    (undotted : '.' ∉ table.toList) (unopened : table.toList.head? ≠ some quoteChar)
    (column : String)
    : let quote := Identifier.quote quoteChar
      (quote (table ++ "." ++ column) = quote table ++ "." ++ quote column
        ↔ table.toList.count quoteChar % 2 = 0)
      ∧ (table.toList.count quoteChar % 2 = 1
        → ∃ segment : String,
            (∀ front back,
              segment.toList = front ++ '.' :: back → front.count quoteChar % 2 = 0)
            ∧ let name := String.ofList (delimit quoteChar (table ++ "." ++ segment).toList)
              (column = segment ∧ quote (table ++ "." ++ column) = name
              ∨ ∃ back,
                  column = segment ++ "." ++ back
                  ∧ segment.toList.count quoteChar % 2 = 1
                  ∧ quote (table ++ "." ++ column) = name ++ "." ++ quote back)) := by
  intro quote
  exact ⟨⟨even_of_quote_eq notDot notStar undotted unopened,
      fun even => quote_append_dot notDot even column⟩,
    fun odd => quote_unclosed notDot undotted unopened odd column⟩

/-- Two quote characters in the table, and a column that is a star. -/
theorem quote_dotted_even
    : let quote := Identifier.quote '"'
      '"' ≠ '.'
      ∧ '"' ≠ '*'
      ∧ '.' ∉ "o\"x\"".toList
      ∧ "o\"x\"".toList.head? ≠ some '"'
      ∧ quote ("o\"x\"" ++ "." ++ "*") = quote "o\"x\"" ++ "." ++ quote "*"
      ∧ quote "o\"x\".*" = "\"o\"\"x\"\"\".*" := by
  intro quote
  have undotted : '.' ∉ "o\"x\"".toList := by decide
  have unopened : "o\"x\"".toList.head? ≠ some '"' := by decide
  obtain ⟨separate, -⟩ := quote_dotted (by decide) (by decide) undotted unopened "*"
  exact ⟨by decide, by decide, undotted, unopened, separate.mpr (by decide), by decide +kernel⟩

/-- One quote character in the table: the column is a part of its name. -/
theorem quote_unclosed_table
    : let quote := Identifier.quote '"'
      quote ("we\"ird" ++ "." ++ "name") = "\"we\"\"ird.name\""
      ∧ quote "we\"ird" ++ "." ++ quote "name" = "\"we\"\"ird\".\"name\"" := by
  decide +kernel

-----------------------------------------------------------------------------------------
-- Texts that quoting leaves alone
-----------------------------------------------------------------------------------------

variable {text : List Char} {items : List Lexeme}

/-- The delimiters of an item come in pairs, so behind it no quotation is open. -/
theorem IsItem.even (notStar : quoteChar ≠ '*') {item : Lexeme}
    (isItem : IsItem quoteChar text item)
    : text.count quoteChar % 2 = 0 := by
  cases isItem with
  | star => simp [notStar.symm]
  | name content =>
      have closing : [quoteChar].count quoteChar = 1 := List.count_singleton_self
      simp only [delimit, List.count_cons_self, List.count_append, count_double, closing]
      omega

theorem IsItem.quoteChars_eq (notStar : quoteChar ≠ '*') {item : Lexeme}
    (isItem : IsItem quoteChar text item)
    : Identifier.quoteChars quoteChar text = text := by
  cases isItem with
  | star =>
      simp [Identifier.quoteChars, Identifier.segments, Identifier.segmentsFrom,
        Identifier.consToFirst, Identifier.quoteSegment, notStar.symm]
  | name content =>
      refine String.ofList_injective ?_
      simpa [Identifier.quote] using quote_delimit quoteChar content

/-- A path is quoted item by item and stays as it is, by induction on its derivation. -/
theorem IsPath.quoteChars_eq (notDot : quoteChar ≠ '.') (notStar : quoteChar ≠ '*')
    (isPath : IsPath quoteChar text items)
    : Identifier.quoteChars quoteChar text = text := by
  induction isPath with
  | last isItem => exact isItem.quoteChars_eq notStar
  | dot isItem _ ih =>
      rw [quoteChars_append_dot notDot (isItem.even notStar),
        isItem.quoteChars_eq notStar, ih]

/-- The texts that quoting leaves alone are the paths. -/
theorem quote_eq_self_iff (notDot : quoteChar ≠ '.') (notStar : quoteChar ≠ '*') {text : String}
    : Identifier.quote quoteChar text = text ↔ ∃ items, IsPath quoteChar text.toList items := by
  constructor
  · intro same
    have isPath := isPath_quote quoteChar text
    rw [same] at isPath
    exact ⟨_, isPath⟩
  · rintro ⟨items, isPath⟩
    rw [Identifier.quote, isPath.quoteChars_eq notDot notStar, String.ofList_toList]

/-- Items with dots in between are a path, by induction on their texts. -/
theorem exists_isPath_intercalate {texts : List (List Char)} (some : texts ≠ [])
    (areItems : ∀ text ∈ texts, ∃ item, IsItem quoteChar text item)
    : ∃ items, IsPath quoteChar (List.intercalate ['.'] texts) items := by
  induction texts with
  | nil => exact absurd rfl some
  | cons text rest ih =>
      obtain ⟨⟨item, isItem⟩, areItems⟩ := List.forall_mem_cons.mp areItems
      cases rest with
      | nil => exact ⟨[item], by simpa using IsPath.last isItem⟩
      | cons next rest =>
          obtain ⟨items, isPath⟩ := ih (List.cons_ne_nil _ _) areItems
          exact ⟨item :: items, by simpa using IsPath.dot isItem isPath⟩

/-- Quoting a quoted identifier changes nothing, however often it is done. The texts that stay as
they are are exactly the paths, so items that are quoted already may be joined with dots. There has
to be one of them: a text without items is the empty name, and quoting delimits it.
-/
theorem quote_idempotent (notDot : quoteChar ≠ '.') (notStar : quoteChar ≠ '*')
    : let quote := Identifier.quote quoteChar
      (∀ name, quote (quote name) = quote name)
      ∧ (∀ name times, quote^[times] (quote name) = quote name)
      ∧ (∀ text, quote text = text ↔ ∃ items, IsPath quoteChar text.toList items)
      ∧ ∀ texts : List String,
          texts ≠ []
          → (∀ text ∈ texts, ∃ item, IsItem quoteChar text.toList item)
          → quote (String.intercalate "." texts) = String.intercalate "." texts := by
  intro quote
  have twice (name : String) : quote (quote name) = quote name :=
    (quote_eq_self_iff notDot notStar).mpr ⟨_, isPath_quote quoteChar name⟩
  refine ⟨twice, fun name times => Function.iterate_fixed (twice name) times,
    fun text => quote_eq_self_iff notDot notStar, fun texts some areItems => ?_⟩
  refine (quote_eq_self_iff notDot notStar).mpr ?_
  rw [String.toList_intercalate]
  exact exists_isPath_intercalate (by simpa using some) (List.forall_mem_map.mpr areItems)

/-- Quote characters that delimit nothing, an empty segment and a star; and a list with a dot and
doubled quote characters inside of its items.
-/
theorem quote_idempotent_halfQuoted
    : let quote := Identifier.quote '"'
      let name := "a\"b.\"..*.\"x"
      let quoted := "\"a\"\"b.\"\"\".\"\".*.\"\"\"x\""
      let texts := ["\"a.b\"", "*", "\"\"", "\"x\"\"y\""]
      let joined := "\"a.b\".*.\"\".\"x\"\"y\""
      '"' ≠ '.'
      ∧ '"' ≠ '*'
      ∧ quote name = quoted
      ∧ quote quoted = quoted
      ∧ texts ≠ []
      ∧ (∀ text ∈ texts, ∃ item, IsItem '"' text.toList item)
      ∧ quote joined = joined := by
  intro quote name quoted texts joined
  have isQuoted : quote name = quoted := by decide +kernel
  have named {text : String} (content : List Char) (same : text.toList = delimit '"' content)
      : ∃ item, IsItem '"' text.toList item :=
    ⟨.name content, same ▸ .name content⟩
  have areItems : ∀ text ∈ texts, ∃ item, IsItem '"' text.toList item := by
    simp only [texts, List.forall_mem_cons]
    exact ⟨named "a.b".toList (by decide), ⟨_, .star⟩, named [] (by decide),
      named "x\"y".toList (by decide), by simp⟩
  have some : texts ≠ [] := List.cons_ne_nil _ _
  obtain ⟨twice, -, -, lists⟩ := quote_idempotent (by decide : '"' ≠ '.') (by decide)
  have again : quote (quote name) = quote name := twice name
  rw [isQuoted] at again
  exact ⟨by decide, by decide, isQuoted, again, some, areItems, lists texts some areItems⟩

end SqlCompiler.Sql
