import SqlCompiler.Proofs.Text.Blank
import SqlCompiler.Query.Basic

/-! How the text of a joined table is read. Whatever blanks stand around the table and its alias,
both are found; but a keyword in between is one only if a space follows it. Behind any other blank
it is taken into the alias.
-/

namespace SqlCompiler

open Text

/-- Adds a join of the given kind with the setter for it; the one for cross joins takes no
condition.
-/
def Query.joinTable (query : Query) (table condition : String) : JoinKind → Query
  | .inner => query.innerJoin table condition
  | .left => query.leftJoin table condition
  | .right => query.rightJoin table condition
  | .cross => query.crossJoin table

namespace Join

variable {table tableAlias : List Char}

-----------------------------------------------------------------------------------------
-- The alias
-----------------------------------------------------------------------------------------

theorem nonEmpty?_of_ne_nil {text : List Char} (some : text ≠ [])
    : nonEmpty? text = String.ofList text := by
  simp [nonEmpty?, some]

/-- Blanks before the alias do not matter. -/
theorem alias?_append {before : List Char} (blank : Blanks before) (text : List Char)
    : alias? (before ++ text) = alias? text := by
  simp only [alias?, trimStart, List.dropWhile_append_of_pos blank]

/-- A word is an alias as it is: there is no space in it to end a keyword. -/
theorem alias?_of_isWord (isAlias : IsWord tableAlias)
    : alias? tableAlias = String.ofList tableAlias := by
  have kept : trimStart tableAlias = tableAlias :=
    trimStart_append blanks_nil isAlias.isTrimmed.starts
  have noKeyword : afterKeyword? "as ".toList tableAlias = none := by
    refine Option.eq_none_iff_forall_ne_some.mpr fun rest found => ?_
    obtain ⟨start, rfl, isKeyword⟩ := afterKeyword?_eq_some_iff.mp found
    obtain ⟨c, member, lowered⟩ : ∃ c ∈ start, c.toLower = ' ' := by
      have space : ' ' ∈ lower start := isKeyword ▸ by decide
      exact List.mem_map.mp space
    have solid := isAlias.solid c (List.mem_append_left rest member)
    rw [eq_of_toLower_eq_space lowered] at solid
    cases solid
  rw [alias?, kept]
  simp only [noKeyword]
  exact nonEmpty?_of_ne_nil isAlias.ne_nil

/-- A keyword before the alias is left out if a space follows it. Behind another blank it counts as
the start of the alias.
-/
theorem alias?_keyword {keyword behind : List Char} (isKeyword : lower keyword = "as".toList)
    (isAlias : IsTrimmed tableAlias) (blank : Blanks behind) (apart : behind ≠ [])
    : alias? (keyword ++ behind ++ tableAlias)
      = String.ofList
          (if behind.head? = some ' ' then tableAlias
            else keyword ++ behind ++ tableAlias) := by
  have isWord : IsWord keyword := .of_lower (isKeyword ▸ by decide)
  have kept : trimStart (keyword ++ behind ++ tableAlias) = keyword ++ behind ++ tableAlias :=
    trimStart_append blanks_nil (isWord.isTrimmed_append behind isAlias).starts
  obtain ⟨first, others, rfl⟩ := List.exists_cons_of_ne_nil apart
  have found
      : afterKeyword? "as ".toList (keyword ++ first :: others ++ tableAlias)
        = if first = ' ' then some (others ++ tableAlias) else none := by
    rw [List.append_assoc, List.cons_append]
    exact afterKeyword?_word isKeyword first (others ++ tableAlias)
  rw [alias?, kept]
  simp only [found, List.head?_cons, Option.some.injEq]
  by_cases space : first = ' '
  · simp only [if_pos space]
    rw [trimStart_append (List.forall_mem_cons.mp blank).2 isAlias.starts,
      nonEmpty?_of_ne_nil isAlias.ne_nil]
  · simp only [if_neg space]
    exact nonEmpty?_of_ne_nil (by simp)

/-- A text that does not end with a blank always gives an alias, with a keyword or without. -/
theorem exists_alias? {text : List Char} (notNil : text ≠ [])
    (ends : ∀ c ∈ text.getLast?, isBlank c = false)
    : ∃ tableAlias, alias? text = some tableAlias := by
  have left : trimStart text ≠ [] := by
    intro nothing
    have last := List.getLast_mem notNil
    have solid := ends _ (List.getLast?_eq_some_getLast notNil)
    rw [trimStart_eq_nil_iff.mp nothing _ last] at solid
    cases solid
  have leftEnds : ∀ c, (trimStart text).getLast? = some c → isBlank c = false := by
    have whole : text.takeWhile isBlank ++ trimStart text = text :=
      List.takeWhile_append_dropWhile
    rw [← whole, List.getLast?_append_of_ne_nil _ left] at ends
    exact ends
  simp only [alias?]
  split
  · rename_i rest found
    obtain ⟨c, member, notBlank⟩ := @exists_notBlank_afterKeyword? "as".toList _ _ found leftEnds
    refine ⟨_, nonEmpty?_of_ne_nil fun nothing => ?_⟩
    rw [trimStart_eq_nil_iff.mp nothing c member] at notBlank
    cases notBlank
  · exact ⟨_, nonEmpty?_of_ne_nil left⟩

-----------------------------------------------------------------------------------------
-- The table and its alias
-----------------------------------------------------------------------------------------

theorem tableAndAlias_word {before after : List Char} (isTable : IsWord table)
    (blankBefore : Blanks before) (blankAfter : Blanks after)
    : tableAndAlias (String.ofList (before ++ table ++ after)) = (String.ofList table, none) := by
  simp only [tableAndAlias, String.toList_ofList,
    isTable.isTrimmed.trim_around blankBefore blankAfter, cutAtBlank?_eq_none isTable.solid]

/-- The table ends at the first blank; what follows is its alias. -/
theorem tableAndAlias_cut {before rest after : List Char} {blank : Char}
    (solid : Solid table) (isBlank : isBlank blank = true)
    (isTrimmed : IsTrimmed (table ++ blank :: rest))
    (blankBefore : Blanks before) (blankAfter : Blanks after)
    : tableAndAlias (String.ofList (before ++ (table ++ blank :: rest) ++ after))
      = (String.ofList table, alias? rest) := by
  simp only [tableAndAlias, String.toList_ofList, isTrimmed.trim_around blankBefore blankAfter,
    cutAtBlank?_append solid isBlank]

/-- The blanks between the table and the text of its alias do not matter. -/
theorem tableAndAlias_append {before between text after : List Char} (isTable : IsWord table)
    (isText : IsTrimmed text) (blankBefore : Blanks before) (blankAfter : Blanks after)
    (blankBetween : Blanks between) (apart : between ≠ [])
    : tableAndAlias (String.ofList (before ++ table ++ between ++ text ++ after))
      = (String.ofList table, alias? text) := by
  have isTrimmed := isTable.isTrimmed_append between isText
  obtain ⟨first, others, rfl⟩ := List.exists_cons_of_ne_nil apart
  obtain ⟨isBlank, blankOthers⟩ := List.forall_mem_cons.mp blankBetween
  have cut := tableAndAlias_cut isTable.solid isBlank (by simpa using isTrimmed) blankBefore
    blankAfter
  rw [alias?_append blankOthers] at cut
  simpa using cut

-----------------------------------------------------------------------------------------
-- The condition
-----------------------------------------------------------------------------------------

/-- The condition that a setter of the given kind passes on. -/
def condition? (condition : String) : JoinKind → Option String
  | .inner | .left | .right => nonEmpty? (trim condition.toList)
  | .cross => none

/-- A condition is left out if it is blank, and trimmed otherwise. -/
theorem condition?_of_ne_cross {kind : JoinKind} (takes : kind ≠ .cross) (condition : String)
    : condition? condition kind = nonEmpty? (trim condition.toList) := by
  cases kind with
  | cross => exact absurd rfl takes
  | inner | left | right => rfl

theorem condition?_eq_none_iff {kind : JoinKind} {condition : String}
    : condition? condition kind = none ↔ kind = .cross ∨ Blanks condition.toList := by
  rw [Blanks, ← trim_eq_nil_iff]
  by_cases cross : kind = .cross
  · simp [cross, condition?]
  · simp [condition?_of_ne_cross cross, cross, nonEmpty?]

theorem toList_of_condition? {kind : JoinKind} {condition sql : String}
    (given : condition? condition kind = some sql)
    : sql.toList = trim condition.toList := by
  have takes : kind ≠ .cross := by
    rintro rfl
    cases given
  rw [condition?_of_ne_cross takes, nonEmpty?] at given
  split at given
  · cases given
  · rw [← Option.some.inj given, String.toList_ofList]

end Join

-----------------------------------------------------------------------------------------
-- Joins that are added to a query
-----------------------------------------------------------------------------------------

namespace Query

/-- Every setter reads the text of the table alike. -/
theorem joinTable_eq (query : Query) (table condition : String) (kind : JoinKind)
    : query.joinTable table condition kind
      = query.addJoin
          { kind
            table := (Join.tableAndAlias table).1
            tableAlias := (Join.tableAndAlias table).2
            condition := Join.condition? condition kind } := by
  cases kind <;> rfl

/-- A table and its alias are found between any blanks, and so is a keyword in any case of its
letters that a space follows. Behind another blank the keyword and all that follows are the alias.
A condition is trimmed, and left out exactly if it is blank.
-/
theorem joinTable_layout (query : Query) (kind : JoinKind) (condition : String)
    {before table between keyword behind tableAlias after : List Char}
    (isTable : IsWord table) (isAlias : IsWord tableAlias)
    (isKeyword : lower keyword = "as".toList) (blankBefore : Blanks before)
    (blankBetween : Blanks between) (apart : between ≠ []) (blankBehind : Blanks behind)
    (apartBehind : behind ≠ []) (blankAfter : Blanks after)
    : let joined (text : List Char) := query.joinTable (String.ofList text) condition kind
      ∃ stored,
        (stored = none ↔ kind = .cross ∨ Blanks condition.toList)
        ∧ (∀ sql, stored = some sql → sql.toList = trim condition.toList)
        ∧ let added (tableAlias : Option (List Char)) :=
            query.addJoin
              { kind
                table := String.ofList table
                tableAlias := tableAlias.map String.ofList
                condition := stored }
          joined (before ++ table ++ after) = added none
          ∧ joined (before ++ table ++ between ++ tableAlias ++ after) = added (some tableAlias)
          ∧ joined (before ++ table ++ between ++ (keyword ++ behind ++ tableAlias) ++ after)
            = added
                (some
                  (if behind.head? = some ' ' then tableAlias
                    else keyword ++ behind ++ tableAlias)) := by
  intro joined
  have isWord : IsWord keyword := .of_lower (isKeyword ▸ by decide)
  refine ⟨Join.condition? condition kind, Join.condition?_eq_none_iff,
    fun _ => Join.toList_of_condition?, ?alone, ?plain, ?withKeyword⟩
  case alone =>
    simp only [joined, joinTable_eq, Join.tableAndAlias_word isTable blankBefore blankAfter]
    rfl
  case plain =>
    simp only [joined, joinTable_eq,
      Join.tableAndAlias_append isTable isAlias.isTrimmed blankBefore blankAfter blankBetween apart,
      Join.alias?_of_isWord isAlias]
    rfl
  case withKeyword =>
    simp only [joined, joinTable_eq,
      Join.tableAndAlias_append isTable (isWord.isTrimmed_append behind isAlias.isTrimmed)
        blankBefore blankAfter blankBetween apart,
      Join.alias?_keyword isKeyword isAlias.isTrimmed blankBehind apartBehind]
    rfl

/-- Blanks of all kinds around table and alias, and a space before the tab behind the keyword. -/
theorem joinTable_layout_noBreakSpace
    : let query : Query := { table := "b" }
      let joined (table : String) := query.joinTable table " b.id = ö.id\n" .left
      let added (tableAlias : Option String) :=
        query.addJoin
          { kind := .left
            table := "db.orders"
            tableAlias
            condition := some "b.id = ö.id" }
      IsWord "db.orders".toList
      ∧ IsWord "ö".toList
      ∧ lower "aS".toList = "as".toList
      ∧ Blanks "\n\t".toList
      ∧ Blanks "\u00a0".toList
      ∧ Blanks " \t".toList
      ∧ Blanks " ".toList
      ∧ joined "\n\tdb.orders " = added none
      ∧ joined "\n\tdb.orders\u00a0ö " = added (some "ö")
      ∧ joined "\n\tdb.orders\u00a0aS \tö " = added (some "ö") := by
  intro query joined added
  have isTable : IsWord "db.orders".toList := by decide
  have isAlias : IsWord "ö".toList := by decide
  have isKeyword : lower "aS".toList = "as".toList := by decide
  have before : Blanks "\n\t".toList := by decide
  have between : Blanks "\u00a0".toList := by decide
  have behind : Blanks " \t".toList := by decide
  have after : Blanks " ".toList := by decide
  obtain ⟨stored, leftOut, trimmed, alone, plain, withKeyword⟩ :=
    joinTable_layout query .left " b.id = ö.id\n" isTable isAlias isKeyword before between
      (by decide) behind (by decide) after
  cases stored with
  | none => exact absurd (leftOut.mp rfl) (by decide)
  | some sql =>
      obtain rfl : sql = "b.id = ö.id" :=
        String.toList_injective ((trimmed sql rfl).trans (by decide +kernel))
      refine ⟨isTable, isAlias, isKeyword, before, between, behind, after, ?_, ?_, ?_⟩
      · exact alone
      · exact plain
      · exact withKeyword

/-- With a tab behind it, the keyword is a part of the alias. -/
theorem joinTable_tab
    : let query : Query := { table := "b" }
      IsWord "t".toList
      ∧ IsWord "o".toList
      ∧ lower "AS".toList = "as".toList
      ∧ Blanks "\t".toList
      ∧ query.joinTable "t AS\to" "x" .inner
        = query.addJoin
            { kind := .inner
              table := "t"
              tableAlias := some "AS\to"
              condition := some "x" } :=
  ⟨by decide, by decide, by decide, by decide, by decide +kernel⟩

end Query

end SqlCompiler
