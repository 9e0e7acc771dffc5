import SqlCompiler.Proofs.Statement.Spacing
import SqlCompiler.Proofs.Statement.Verbatim

/-! A compiled statement is read as its template says: quote characters occur neither in
placeholders nor between the parts of a statement, so every identifier is read as a whole.
-/

namespace SqlCompiler

open Sql

/-- A placeholder is a colon and a word, since the digits of its number go on with the prefix.
-/
theorem Binder.exists_word {placeholderPrefix : String}
    (valid : isPlaceholderPrefix placeholderPrefix = true) (number : Nat)
    : ∃ word,
        (placeholder placeholderPrefix number).toList = ':' :: word
        ∧ word ≠ []
        ∧ ∀ c ∈ word, isPlaceholderChar c = true := by
  simp only [isPlaceholderPrefix, Bool.and_eq_true, Bool.not_eq_true',
    List.isEmpty_eq_false_iff, List.all_eq_true] at valid
  obtain ⟨nonempty, isWord⟩ := valid
  refine ⟨placeholderPrefix.toList ++ Nat.toDigits 10 number, ?_, ?_, ?_⟩
  · simp [placeholder, Nat.toList_repr]
  · simp [nonempty]
  · intro c member
    rcases List.mem_append.mp member with inPrefix | inNumber
    · exact isWord c inPrefix
    · have digit : c.isDigit = true :=
        Nat.isDigit_of_mem_toDigits (by decide : 0 < 10) (by decide) inNumber
      simp [isPlaceholderChar, Char.isAlphanum, digit]

namespace Dialect

theorem quoteChar_mem_markers (dialect : Dialect) : dialect.quoteChar ∈ markers := by
  cases dialect <;> decide

/-- A quote character is no part of a path, of a placeholder or of the space between. -/
theorem quoteChar_spec (dialect : Dialect)
    : dialect.quoteChar ≠ '.'
      ∧ dialect.quoteChar ≠ '*'
      ∧ dialect.quoteChar ≠ ':'
      ∧ isGap dialect.quoteChar = false
      ∧ isPlaceholderChar dialect.quoteChar = false := by
  cases dialect <;> decide

theorem quoteChar_not_mem_placeholder (dialect : Dialect) {placeholderPrefix : String}
    (valid : isPlaceholderPrefix placeholderPrefix = true) (number : Nat)
    : dialect.quoteChar ∉ (Binder.placeholder placeholderPrefix number).toList := by
  obtain ⟨word, chars, _, isWord⟩ := Binder.exists_word valid number
  obtain ⟨_, _, notColon, _, notWord⟩ := dialect.quoteChar_spec
  rw [chars]
  intro member
  rcases List.mem_cons.mp member with colon | inWord
  · exact notColon colon
  · simp [isWord _ inWord] at notWord

/-- A spaced template whose texts have no quote character is read as its lexemes when a dialect
fills it.
-/
theorem lexemes?_render (dialect : Dialect) {template : Template} {placeholderPrefix : String}
    (spaced : template.Spaced) (avoids : template.Avoids dialect.quoteChar)
    (valid : isPlaceholderPrefix placeholderPrefix = true) (number : Nat)
    : lexemes? dialect.quoteChar (template.render dialect.quoteChar placeholderPrefix number)
      = some (template.lexemes dialect.quoteChar placeholderPrefix number) := by
  obtain ⟨notDot, notStar, _, notGap, _⟩ := dialect.quoteChar_spec
  exact spaced.lexemes?_render avoids (dialect.quoteChar_not_mem_placeholder valid) notDot
    notStar notGap number

end Dialect

/-- A compiled statement is read as the lexemes of its template. -/
theorem Compiler.lexemes?_compile {dialect : Dialect} {kind : StatementKind} {query : Query}
    {template : Template} (ok : (forDialect dialect).template kind query = .ok template)
    (valid : isPlaceholderPrefix query.binder.placeholderPrefix = true)
    (plain : ∀ sql ∈ query.verbatim, dialect.quoteChar ∉ sql.toList) (number : Nat)
    : lexemes? dialect.quoteChar
        (template.render dialect.quoteChar query.binder.placeholderPrefix number)
      = some (template.lexemes dialect.quoteChar query.binder.placeholderPrefix number) :=
  dialect.lexemes?_render (template_spaced ok)
    (template_avoids dialect.quoteChar_mem_markers plain ok) valid number

end SqlCompiler
