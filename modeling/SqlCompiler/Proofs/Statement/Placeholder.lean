import SqlCompiler.Proofs.Sql.Placeholder
import SqlCompiler.Proofs.Statement.Reading

/-! The placeholders read off a compiled statement are those of the values that compiling it
has bound, whatever stands in its identifiers.
-/

namespace SqlCompiler

open Sql

-----------------------------------------------------------------------------------------
-- Reading the placeholders of a template
-----------------------------------------------------------------------------------------

/-- What follows a slot in a spaced template starts with no word. -/
theorem Template.Spaced.word_lexemes {column : String} {value : SqlValue} {rest : Template}
    (h : Spaced (.slot column value :: rest)) (quoteChar : Char) (placeholderPrefix : String)
    (number : Nat)
    : word (rest.lexemes quoteChar placeholderPrefix number) = [] := by
  rcases h.next rfl with rfl | ⟨c, text, after, gap, rfl⟩
  · rfl
  · have notWord : isPlaceholderChar c = false := by
      have cases : c = ' ' ∨ c = ',' := by simpa [isGap] using gap
      rcases cases with rfl | rfl <;> decide
    simp [lexemes, word, notWord]

/-- The placeholders read off a spaced template are those of its slots, by induction on the
pieces: its texts have no colon, and its identifiers are read as a whole.
-/
theorem Template.Spaced.placeholdersIn_lexemes {template : Template} (h : template.Spaced)
    (plain : template.Avoids ':') {placeholderPrefix : String}
    (valid : isPlaceholderPrefix placeholderPrefix = true) (quoteChar : Char) (number : Nat)
    : placeholdersIn (template.lexemes quoteChar placeholderPrefix number)
      = (Binder.numbered placeholderPrefix number template.slotValues).map
          (·.placeholder) := by
  induction template generalizing number with
  | nil => rfl
  | cons piece rest ih =>
      obtain ⟨plainPiece, plainRest⟩ := (avoids_cons _ _ _).mp plain
      cases piece with
      | text sql =>
          have noColon : Lexeme.char ':' ∉ sql.toList.map .char := by
            simpa [Piece.Avoids] using plainPiece
          rw [lexemes, placeholdersIn_append noColon, ih h.tail plainRest, slotValues_text]
      | name identifier =>
          have noColon : Lexeme.char ':' ∉ path quoteChar identifier.toList := by
            intro member
            rcases mem_path member with star | dot
            · cases star
            · cases dot
          rw [lexemes, placeholdersIn_append noColon, ih h.tail plainRest, slotValues_name]
      | slot column value =>
          obtain ⟨word, chars, nonempty, isWord⟩ := Binder.exists_word valid number
          rw [lexemes, chars, placeholdersIn_token nonempty isWord (h.word_lexemes _ _ _),
            ih h.tail plainRest, ← chars, String.ofList_toList, slotValues_slot,
            Binder.numbered, List.map_cons]

-----------------------------------------------------------------------------------------
-- The placeholders of a statement
-----------------------------------------------------------------------------------------

/-- Reading a compiled statement from left to right gives the placeholders of the bindings
that compiling it has added, in their order and each once, so that the added values are the
positional parameters. The verbatim texts must be free of colons and delimiters; identifiers
may hold any.
-/
theorem Compiler.placeholders_compile {dialect : Dialect} {kind : StatementKind}
    {query after : Query} {compiled : Compiled}
    (valid : isPlaceholderPrefix query.binder.placeholderPrefix = true)
    (plain : ∀ sql ∈ query.verbatim, ':' ∉ sql.toList ∧ dialect.quoteChar ∉ sql.toList)
    (ok : (forDialect dialect).compile kind query = (.ok compiled, after))
    : placeholders? dialect.quoteChar compiled.sql
        = some (compiled.bound.map (·.placeholder))
      ∧ (compiled.bound.map (·.placeholder)).Nodup
      ∧ after.binder.bindings = query.binder.bindings ++ compiled.bound
      ∧ after.binder.values.drop query.binder.size = compiled.bound.map (·.value) := by
  obtain ⟨template, templateOk, sql, bound, _⟩ := compile_ok ok
  have noColon := template_avoids (by decide) (fun sql given => (plain sql given).1) templateOk
  have noDelimiter (sql : String) (given : sql ∈ query.verbatim) := (plain sql given).2
  have bindings : after.binder.bindings = query.binder.bindings ++ compiled.bound := by
    have added := compile_bindings (forDialect dialect) kind query
    rwa [ok] at added
  refine ⟨?_, ?_, bindings, ?_⟩
  · rw [placeholders?, sql, forDialect, lexemes?_compile templateOk valid noDelimiter, bound,
      Option.map_some, (template_spaced templateOk).placeholdersIn_lexemes noColon valid]
  · rw [bound]
    exact Binder.nodup_numbered ..
  · have sizes : (query.binder.bindings.map (·.value)).length = query.binder.size := by
      rw [List.length_map, Binder.size]
    rw [Binder.values, bindings, List.map_append, ← sizes, List.drop_left]

/-- An identifier that ends its delimiter and goes on with a placeholder is no placeholder;
the ones read are bound across two clauses, behind a prefix that ends in digits.
-/
theorem Compiler.placeholders_compile_disguised
    : let query : Query :=
        { table := "t\":p19"
          columns := [⟨.name "a.b", some "n:p110"⟩, ⟨.raw "COUNT(*)", none⟩]
          criteria := ⟨[.predicate ⟨"u", .between (.bind .null) (.bind (.bool true)), .and⟩]⟩
          having := ⟨[.predicate ⟨"\":", .isIn [.bind .null, .raw "NOW()"], .or⟩]⟩
          binder := (Binder.prepare { placeholderPrefix := "p1" } (.bool false)).2 }
      let compiled : Compiled :=
        { kind := .select
          dialect := .pgsql
          sql :=
            "SELECT \"a\".\"b\" AS \"n:p110\", COUNT(*) FROM \"t\"\":p19\""
              ++ " WHERE \"u\" BETWEEN :p12 AND :p13 HAVING \"\"\":\" IN ( :p14, NOW() )"
          bound := [⟨":p12", .null⟩, ⟨":p13", .bool true⟩, ⟨":p14", .null⟩] }
      isPlaceholderPrefix query.binder.placeholderPrefix = true
      ∧ (∀ sql ∈ query.verbatim, ':' ∉ sql.toList ∧ Dialect.pgsql.quoteChar ∉ sql.toList)
      ∧ ((forDialect .pgsql).compile .select query).1 = .ok compiled
      ∧ placeholders? Dialect.pgsql.quoteChar compiled.sql = some [":p12", ":p13", ":p14"] := by
  intro query compiled
  have valid : isPlaceholderPrefix query.binder.placeholderPrefix = true := by decide
  have plain
      : ∀ sql ∈ query.verbatim, ':' ∉ sql.toList ∧ Dialect.pgsql.quoteChar ∉ sql.toList := by
    decide
  have ok : ((forDialect .pgsql).compile .select query).1 = .ok compiled := by
    decide +kernel
  have compiles
      : (forDialect .pgsql).compile .select query
        = (.ok compiled, ((forDialect .pgsql).compile .select query).2) :=
    Prod.ext ok rfl
  exact ⟨valid, plain, ok, (placeholders_compile valid plain compiles).1⟩

end SqlCompiler
