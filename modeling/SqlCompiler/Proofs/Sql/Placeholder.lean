import SqlCompiler.Proofs.Sql.Lexeme

/-! Reading placeholders off an SQL text: every colon outside delimited identifiers with the
word behind it.
-/

namespace SqlCompiler.Sql

/-- The longest word that lexemes start with. -/
def word : List Lexeme → List Char
  | [] => []
  | .name _ :: _ => []
  | .char c :: rest => if isPlaceholderChar c then c :: word rest else []

/-- The placeholders among lexemes: every colon that a word follows, with that word. -/
def placeholdersIn : List Lexeme → List String
  | [] => []
  | .name _ :: rest => placeholdersIn rest
  | .char c :: rest =>
      if c = ':' && !(word rest).isEmpty then
        String.ofList (c :: word rest) :: placeholdersIn rest
      else placeholdersIn rest

/-- The placeholders in an SQL text, if it ends outside delimited identifiers. -/
def placeholders? (delimiter : Char) (sql : String) : Option (List String) :=
  (lexemes? delimiter sql).map placeholdersIn

/-- Lexemes without a colon hold no placeholder, whatever follows. -/
theorem placeholdersIn_append {lexemes : List Lexeme} (plain : .char ':' ∉ lexemes)
    (after : List Lexeme)
    : placeholdersIn (lexemes ++ after) = placeholdersIn after := by
  induction lexemes with
  | nil => rfl
  | cons lexeme lexemes ih =>
      have tail := ih (List.not_mem_of_not_mem_cons plain)
      cases lexeme with
      | name content => exact tail
      | char c =>
          have differs : c ≠ ':' := by
            rintro rfl
            exact plain List.mem_cons_self
          simpa [placeholdersIn, differs] using tail

theorem word_append {text : List Char} (isWord : ∀ c ∈ text, isPlaceholderChar c = true)
    {after : List Lexeme} (ends : word after = [])
    : word (text.map .char ++ after) = text := by
  induction text with
  | nil => exact ends
  | cons c text ih =>
      obtain ⟨first, rest⟩ := List.forall_mem_cons.mp isWord
      simp [word, first, ih rest]

/-- A placeholder is read as it is, if no word follows directly. The word itself holds no
colon, so nothing else is read from it.
-/
theorem placeholdersIn_token {text : List Char} (nonempty : text ≠ [])
    (isWord : ∀ c ∈ text, isPlaceholderChar c = true) {after : List Lexeme}
    (ends : word after = [])
    : placeholdersIn ((':' :: text).map .char ++ after)
      = String.ofList (':' :: text) :: placeholdersIn after := by
  have plain : Lexeme.char ':' ∉ text.map .char := by
    intro member
    obtain ⟨c, listed, same⟩ := List.mem_map.mp member
    have noWord : isPlaceholderChar ':' = false := by decide
    rw [Lexeme.char.inj same] at listed
    simp [isWord _ listed] at noWord
  simp [placeholdersIn, word_append isWord ends, nonempty,
    placeholdersIn_append plain after]

end SqlCompiler.Sql
