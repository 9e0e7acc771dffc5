import SqlCompiler.Proofs.Query.Join
import SqlCompiler.Proofs.Sql.Segment
import SqlCompiler.Proofs.Statement.Reading
import SqlCompiler.Proofs.Statement.Selection

/-! Joined tables whose names are delimited already. Such a name is shown as it stands if it has no
blanks. The text of a joined table is cut at its first blank, though, and inside of a quotation
too: what is before the blank counts as a table with a quote character in its name, and all that
follows as its alias.
-/

namespace SqlCompiler

open Sql Text

theorem Dialect.isBlank_quoteChar (dialect : Dialect) : isBlank dialect.quoteChar = false := by
  cases dialect <;> decide

variable {quoteChar : Char} {content start rest suffix : List Char} {blank : Char}

-----------------------------------------------------------------------------------------
-- Blanks in delimited names
-----------------------------------------------------------------------------------------

namespace Sql

theorem solid_double_iff : Solid (double quoteChar content) ↔ Solid content := by
  simp only [Solid, mem_double]

/-- The delimiters of a table without blanks belong to it. -/
theorem isWord_delimit (notBlank : isBlank quoteChar = false) (solid : Solid content)
    : IsWord (delimit quoteChar content) where
  ne_nil := List.cons_ne_nil _ _
  solid := by
    refine List.forall_mem_cons.mpr ⟨notBlank, List.forall_mem_append.mpr ⟨?_, ?_⟩⟩
    · exact solid_double_iff.mpr solid
    · exact List.forall_mem_singleton.mpr notBlank

theorem solid_opened (notBlank : isBlank quoteChar = false) (solid : Solid start)
    : Solid (quoteChar :: double quoteChar start) :=
  List.forall_mem_cons.mpr ⟨notBlank, solid_double_iff.mpr solid⟩

/-- A blank between delimiters is one of the text. -/
theorem delimit_append_cons (notBlank : isBlank quoteChar = false) (isBlank : isBlank blank = true)
    : delimit quoteChar (start ++ blank :: rest) ++ suffix
      = (quoteChar :: double quoteChar start)
        ++ blank :: (double quoteChar rest ++ quoteChar :: suffix) := by
  have differs : blank ≠ quoteChar := by
    rintro rfl
    rw [notBlank] at isBlank
    cases isBlank
  simp [delimit, double_append, double_cons_of_ne differs]

end Sql

-----------------------------------------------------------------------------------------
-- Reading delimited tables
-----------------------------------------------------------------------------------------

namespace Join

/-- A word behind a table is its alias, with a keyword in between or without one. -/
theorem tableAndAlias_aliased {table tableAlias : List Char} (isTable : IsWord table)
    (isAlias : IsWord tableAlias)
    : let read := (String.ofList table, some (String.ofList tableAlias))
      tableAndAlias (String.ofList table ++ " " ++ String.ofList tableAlias) = read
      ∧ tableAndAlias (String.ofList table ++ " AS " ++ String.ofList tableAlias) = read := by
  intro read
  have space : Blanks [' '] := by decide
  have reads {text : List Char} (isText : IsTrimmed text)
      (found : alias? text = some (String.ofList tableAlias))
      : tableAndAlias (String.ofList (table ++ [' '] ++ text)) = read := by
    have parts := tableAndAlias_append isTable isText blanks_nil blanks_nil space
      (List.cons_ne_nil _ _)
    rwa [List.nil_append, List.append_nil, found] at parts
  have keyword : IsWord "AS".toList := by decide
  have found := alias?_keyword (by decide : lower "AS".toList = "as".toList) isAlias.isTrimmed
    space (List.cons_ne_nil _ _)
  have plain := reads isAlias.isTrimmed (alias?_of_isWord isAlias)
  have behindKeyword := reads (keyword.isTrimmed_append [' '] isAlias.isTrimmed) found
  constructor
  · simpa [String.ofList_append, String.append_assoc] using plain
  · have text
        : String.ofList table ++ " AS " ++ String.ofList tableAlias
          = String.ofList (table ++ [' '] ++ ("AS".toList ++ [' '] ++ tableAlias)) :=
      String.toList_injective (by simp)
    rw [text, behindKeyword]

/-- The text of a delimited table with a blank is cut inside of the quotation, and what follows
always gives an alias.
-/
theorem exists_tableAndAlias_delimit (notBlank : isBlank quoteChar = false)
    (isBlank : isBlank blank = true) (solid : Solid start)
    (ends : ∀ c ∈ suffix.getLast?, Text.isBlank c = false)
    : ∃ tableAlias,
        alias? (double quoteChar rest ++ quoteChar :: suffix) = some tableAlias
        ∧ tableAndAlias
              (String.ofList (delimit quoteChar (start ++ blank :: rest) ++ suffix))
          = (String.ofList (quoteChar :: double quoteChar start), some tableAlias) := by
  have closed (front : List Char)
      : ∀ c ∈ (front ++ quoteChar :: suffix).getLast?, Text.isBlank c = false := by
    cases suffix with
    | nil => simpa using notBlank
    | cons c suffix => simpa [List.getLast?_cons] using ends
  have isTrimmed
      : IsTrimmed
          ((quoteChar :: double quoteChar start)
            ++ blank :: (double quoteChar rest ++ quoteChar :: suffix)) :=
    { ne_nil := List.cons_ne_nil _ _
      starts := by simpa using notBlank
      ends := by
        simpa using closed (quoteChar :: double quoteChar start ++ blank :: double quoteChar rest) }
  obtain ⟨tableAlias, found⟩ := exists_alias? (by simp) (closed (double quoteChar rest))
  refine ⟨tableAlias, found, ?_⟩
  have cut :=
    tableAndAlias_cut (solid_opened notBlank solid) isBlank isTrimmed blanks_nil blanks_nil
  rw [← delimit_append_cons notBlank isBlank, found] at cut
  simpa using cut

end Join

-----------------------------------------------------------------------------------------
-- Joins with delimited tables
-----------------------------------------------------------------------------------------

namespace Compiler

/-- A joined table more shows what is read of its text, behind the joins before it. -/
theorem compile_joinTable {dialect : Dialect} {query : Query}
    (unlocked : dialect = .sqlite → query.forUpdate = false)
    : let quote := Identifier.quote dialect.quoteChar
      ∃ compiled behind,
        ((forDialect dialect).compile .select query).1 = .ok compiled
        ∧ compiled.sql
          = String.intercalate " " ("SELECT" :: (query.opening dialect.quoteChar ++ behind))
        ∧ ∀ kind condition text table tableAlias,
            Join.tableAndAlias text = (table, tableAlias)
            → ((forDialect dialect).compile .select (query.joinTable text condition kind)).1
              = .ok
                  { compiled with
                    sql :=
                      String.intercalate " "
                        ("SELECT"
                          :: (query.opening dialect.quoteChar
                            ++ kind.text (quote table) (tableAlias.map quote)
                                (Join.condition? condition kind)
                            :: behind)) } := by
  obtain ⟨compiled, behind, ok, sql, join⟩ := compile_addJoin unlocked
  refine ⟨compiled, behind, ok, sql, fun kind condition text table tableAlias read => ?_⟩
  rw [Query.joinTable_eq, read]
  exact join _

/-- A join shows the name of its table up to the delimiter that closes it, whether an alias follows
or not.
-/
theorem eq_of_text_eq {kind : JoinKind} {condition : Option String} {name : List Char}
    {tableAlias : String} (notBlank : isBlank quoteChar = false)
    (same
      : kind.text (String.ofList (delimit quoteChar content)) none condition
        = kind.text (String.ofList (delimit quoteChar name)) (some tableAlias) condition)
    : content = name := by
  have apart : ' ' ≠ quoteChar := by
    rintro rfl
    cases notBlank
  have sameStart := congrArg String.toList ((String.append_left_inj _).mp same)
  have names
      : delimit quoteChar content = delimit quoteChar name ++ ' ' :: tableAlias.toList := by
    simpa [String.append_assoc] using sameStart
  exact eq_of_delimit_eq_append (by simpa using apart) names

/-- A join with a delimited table shows it as it stands, with no alias, exactly if there is no blank
in its name, and then a plain alias behind it is quoted. If there is a blank, the join shows a table
whose name starts with a quote character and ends before the blank, and an alias.
-/
theorem compile_joinTable_delimited {dialect : Dialect} {query : Query}
    (unlocked : dialect = .sqlite → query.forUpdate = false) (kind : JoinKind)
    (condition : String) (content : List Char)
    : let quoteChar := dialect.quoteChar
      let delimited (content : List Char) := String.ofList (delimit quoteChar content)
      let joined (text : String) :=
        ((forDialect dialect).compile .select (query.joinTable text condition kind)).1
      ∃ compiled behind,
        ((forDialect dialect).compile .select query).1 = .ok compiled
        ∧ compiled.sql
          = String.intercalate " " ("SELECT" :: (query.opening quoteChar ++ behind))
        ∧ let shows (table : String) (tableAlias : Option String)
              : Except CompileError Compiled :=
            .ok
              { compiled with
                sql :=
                  String.intercalate " "
                    ("SELECT"
                      :: (query.opening quoteChar
                        ++ kind.text table tableAlias (Join.condition? condition kind)
                        :: behind)) }
          (joined (delimited content) = shows (delimited content) none ↔ Solid content)
          ∧ (Solid content
            → ∀ tableAlias,
                IsWord tableAlias
                → '.' ∉ tableAlias
                → quoteChar ∉ tableAlias
                → tableAlias ≠ ['*']
                → let aliased := shows (delimited content) (some (delimited tableAlias))
                  joined (delimited content ++ " " ++ String.ofList tableAlias) = aliased
                  ∧ joined (delimited content ++ " AS " ++ String.ofList tableAlias) = aliased)
          ∧ ∀ start blank rest suffix,
              content = start ++ blank :: rest
              → Solid start
              → isBlank blank = true
              → (∀ c ∈ suffix.getLast?, isBlank c = false)
              → ∃ tableAlias,
                  Join.alias? (double quoteChar rest ++ quoteChar :: suffix) = some tableAlias
                  ∧ joined (delimited content ++ String.ofList suffix)
                    = shows (delimited (quoteChar :: double quoteChar start))
                        (some (Identifier.quote quoteChar tableAlias)) := by
  intro quoteChar delimited joined
  obtain ⟨notDot, notStar, -⟩ := dialect.quoteChar_spec
  have notBlank : isBlank quoteChar = false := dialect.isBlank_quoteChar
  obtain ⟨compiled, behind, ok, sql, shown⟩ := compile_joinTable unlocked
  refine ⟨compiled, behind, ok, sql, ?_⟩
  intro shows
  have kept : Identifier.quote quoteChar (delimited content) = delimited content :=
    quote_delimit quoteChar content
  refine ⟨⟨?solid, ?alone⟩, ?aliased, ?cut⟩
  case solid =>
    intro same
    rcases solid_or_exists_blank content with solid | ⟨start, blank, rest, rfl, solid, isBlank⟩
    · exact solid
    · -- The text would be read as a table and an alias, and no join shows those as one name.
      obtain ⟨tableAlias, -, read⟩ :=
        @Join.exists_tableAndAlias_delimit _ start rest [] _ notBlank isBlank solid (by simp)
      rw [List.append_nil] at read
      have quoted := same.symm.trans (shown kind condition _ _ _ read)
      rw [quote_opened notStar] at quoted
      have texts := Text.eq_of_intercalate_eq (congrArg Compiled.sql (Except.ok.inj quoted))
      exact eq_of_text_eq notBlank texts ▸ solid_opened notBlank solid
  case alone =>
    intro solid
    have read := Join.tableAndAlias_word (isWord_delimit notBlank solid) blanks_nil blanks_nil
    rw [List.nil_append, List.append_nil] at read
    have alone := shown kind condition _ _ _ read
    rwa [kept] at alone
  case aliased =>
    intro solid tableAlias isAlias noDot noQuote notBare aliased
    obtain ⟨plain, keyword⟩ :=
      Join.tableAndAlias_aliased (isWord_delimit notBlank solid) isAlias
    have quoted := quote_plain notDot noDot noQuote notBare
    constructor
    · have alone := shown kind condition _ _ _ plain
      rwa [kept, Option.map_some, quoted] at alone
    · have behindKeyword := shown kind condition _ _ _ keyword
      rwa [kept, Option.map_some, quoted] at behindKeyword
  case cut =>
    rintro start blank rest suffix rfl solid isBlank ends
    obtain ⟨tableAlias, found, read⟩ :=
      Join.exists_tableAndAlias_delimit notBlank isBlank solid ends
    rw [String.ofList_append] at read
    have quoted := shown kind condition _ _ _ read
    rw [quote_opened notStar] at quoted
    exact ⟨tableAlias, found, quoted⟩

/-- A table with a dot and a doubled quote character in its name, and an alias of letters outside
ASCII.
-/
theorem compile_joinTable_delimited_alias
    : let query : Query := { table := "t" }
      let joined (text : String) :=
        ((forDialect .mysql).compile .select (query.joinTable text " t.id = ö.id " .left)).1
      (Dialect.mysql = .sqlite → query.forUpdate = false)
      ∧ Solid "a.`b".toList
      ∧ IsWord "ö".toList
      ∧ joined "`a.``b` ö"
        = .ok
            { kind := .select
              dialect := .mysql
              sql := "SELECT * FROM `t` LEFT JOIN `a.``b` `ö` ON t.id = ö.id"
              bound := [] }
      ∧ joined "`a.``b` AS ö" = joined "`a.``b` ö" := by
  intro query joined
  have unlocked : Dialect.mysql = .sqlite → query.forUpdate = false := fun _ => rfl
  have solid : Solid "a.`b".toList := by decide
  have isAlias : IsWord "ö".toList := by decide
  obtain ⟨compiled, behind, ok, sql, -, aliased, -⟩ :=
    compile_joinTable_delimited unlocked .left " t.id = ö.id " "a.`b".toList
  obtain ⟨plain, keyword⟩ :=
    aliased solid "ö".toList isAlias (by decide) (by decide) (by decide)
  exact ⟨unlocked, solid, isAlias, by decide +kernel, keyword.trans plain.symm⟩

/-- A space in the name of a delimited table ends the table, and the rest is taken for its alias. -/
theorem compile_joinTable_space
    : let query : Query := { table := "t" }
      String.ofList (delimit '"' "my table".toList) = "\"my table\""
      ∧ ((forDialect .pgsql).compile .select (query.joinTable "\"my table\"" "" .inner)).1
        = .ok
            { kind := .select
              dialect := .pgsql
              sql := "SELECT * FROM \"t\" INNER JOIN \"\"\"my\" \"table\"\"\""
              bound := [] } := by
  decide +kernel

end Compiler

end SqlCompiler
