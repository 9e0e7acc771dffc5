import SqlCompiler.Proofs.Sql.Segment
import SqlCompiler.Proofs.Statement.Reading
import SqlCompiler.Proofs.Statement.Selection

/-! Aliases of columns, of the table and of joined tables are quoted as identifiers are, so they are
taken apart at dots. An alias is one name if it is no star and has no dot outside of quotations.
-/

namespace SqlCompiler.Compiler

open Sql

/-- A `SELECT` shows every alias as the path it is quoted as, with an item for each of its segments.
That path is a single name, the one that the alias stands for, exactly if the alias is no star and
every dot in it stands behind an odd number of quote characters.
-/
theorem compile_aliases {dialect : Dialect} {query : Query}
    (unlocked : dialect = .sqlite → query.forUpdate = false)
    : let quoteChar := dialect.quoteChar
      let quote := Identifier.quote quoteChar
      (∃ compiled behind,
        ((forDialect dialect).compile .select query).1 = .ok compiled
        ∧ compiled.sql
          = String.intercalate " "
              ("SELECT"
                :: (query.flagTexts
                  ++ query.selectText quoteChar
                  :: ("FROM " ++ quote query.table)
                  :: (query.tableAlias.map quote).toList
                  ++ query.joins.map (Join.text quoteChar)
                  ++ behind)))
      ∧ ∀ name,
          (∃ items,
            IsPath quoteChar (quote name).toList items
            ∧ List.Forall₂ (StandsFor quoteChar)
                (Identifier.segments quoteChar name.toList) items)
          ∧ ((∃ content,
              IsItem quoteChar (quote name).toList (.name content)
              ∧ StandsFor quoteChar name.toList (.name content))
            ↔ name ≠ "*"
              ∧ ∀ front back,
                  name.toList = front ++ '.' :: back → front.count quoteChar % 2 = 1) := by
  intro quoteChar quote
  obtain ⟨notDot, notStar, -⟩ := dialect.quoteChar_spec
  refine ⟨?text, fun name => ⟨⟨_, isPath_quote quoteChar name, ?items⟩,
    quote_isItem_iff notDot notStar⟩⟩
  case text =>
    obtain ⟨compiled, behind, ok, sql, -⟩ := compile_addJoin unlocked
    exact ⟨compiled, behind, ok, sql⟩
  case items =>
    exact List.forall₂_map_right_iff.mpr
      (List.forall₂_same.mpr fun segment _ => standsFor_item quoteChar segment)

/-- Aliases with a dot in a quotation, with quote characters that delimit nothing, and of letters
outside ASCII.
-/
theorem compile_aliases_quoted
    : let query : Query :=
        { table := "t"
          tableAlias := some "o\"x\""
          columns := [⟨.raw "COUNT(*)", some "\"a.b\""⟩]
          joins := [⟨.inner, "s.u", some "é", none⟩] }
      let quote := Identifier.quote '"'
      (Dialect.generic = .sqlite → query.forUpdate = false)
      ∧ ((forDialect .generic).compile .select query).1
        = .ok
            { kind := .select
              dialect := .generic
              sql :=
                "SELECT COUNT(*) AS \"a.b\" FROM \"t\" \"o\"\"x\"\"\""
                  ++ " INNER JOIN \"s\".\"u\" \"é\""
              bound := [] }
      ∧ (∃ content,
          IsItem '"' (quote "\"a.b\"").toList (.name content)
          ∧ StandsFor '"' "\"a.b\"".toList (.name content))
      ∧ (∃ content,
          IsItem '"' (quote "o\"x\"").toList (.name content)
          ∧ StandsFor '"' "o\"x\"".toList (.name content)) := by
  intro query quote
  have unlocked : Dialect.generic = .sqlite → query.forUpdate = false := fun _ => rfl
  obtain ⟨⟨compiled, behind, ok, sql⟩, names⟩ := compile_aliases unlocked
  have oneSegment {name : String}
      (single : Identifier.segments '"' name.toList = [name.toList]) (notStar : name ≠ "*")
      : ∃ content,
          IsItem '"' (quote name).toList (.name content)
          ∧ StandsFor '"' name.toList (.name content) :=
    (names name).2.mpr ⟨notStar, (segments_eq_singleton_iff (by decide)).mp single⟩
  exact ⟨unlocked, by decide +kernel, oneSegment (by decide) (by decide),
    oneSegment (by decide) (by decide)⟩

/-- An alias with a dot is a path of two names, and a star stays bare. -/
theorem compile_aliases_dotted
    : let query : Query :=
        { table := "t"
          tableAlias := some "*"
          columns := [⟨.name "x", some "a.b"⟩] }
      ((forDialect .generic).compile .select query).1
        = .ok
            { kind := .select
              dialect := .generic
              sql := "SELECT \"x\" AS \"a\".\"b\" FROM \"t\" *"
              bound := [] }
      ∧ ∀ name ∈ ["a.b", "*"],
          ¬ ∃ content, IsItem '"' (Identifier.quote '"' name).toList (.name content) := by
  intro query
  refine ⟨by decide +kernel, fun name listed => ?_⟩
  rintro ⟨content, isItem⟩
  have sameItems :=
    (isPath_quote '"' name).unique (by decide) (by decide) (IsPath.last isItem)
  rcases List.mem_cons.mp listed with rfl | last
  · -- The dot separates two segments.
    have lengths : 2 = 1 := congrArg List.length sameItems
    cases lengths
  · obtain rfl := List.mem_singleton.mp last
    have bare : Lexeme.char '*' = .name content := (List.cons.inj sameItems).1
    cases bare

end SqlCompiler.Compiler
