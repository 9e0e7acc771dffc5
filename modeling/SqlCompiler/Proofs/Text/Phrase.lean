import SqlCompiler.Proofs.Text.Blank

/-! Phrases: words with blanks in between, and with or without blanks around them. Every text is a
phrase of its words and of no others, whatever the blanks are and however many.
-/

namespace SqlCompiler.Text

variable {word text : List Char} {words : List (List Char)}

/-- The text consists of the words, in this order. Blanks may stand before, between and behind them,
and behind each word there is one unless the text ends there.
-/
inductive Phrase : List (List Char) → List Char → Prop
  | nil : Phrase [] []
  | blank {c : Char} {text : List Char} {words : List (List Char)} (isBlank : isBlank c = true)
    (phrase : Phrase words text)
    : Phrase words (c :: text)
  | word {word text : List Char} {words : List (List Char)} (isWord : IsWord word)
    (apart : ∀ c ∈ text.head?, Text.isBlank c = true) (phrase : Phrase words text)
    : Phrase (word :: words) (word ++ text)

/-- Characters that do not separate go to the first part, by induction on them. -/
theorem splitWhere_append (solid : Solid word) {part : List Char} {parts : List (List Char)}
    (behind : splitWhere isBlank text = part :: parts)
    : splitWhere isBlank (word ++ text) = (word ++ part) :: parts := by
  induction word with
  | nil => exact behind
  | cons c word ih =>
      obtain ⟨notBlank, solid⟩ := List.forall_mem_cons.mp solid
      simp [splitWhere, notBlank, ih solid]

theorem words_cons_of_isBlank {c : Char} (blank : isBlank c = true) (text : List Char)
    : Text.words (c :: text) = Text.words text := by
  simp [Text.words, splitWhere, blank]

/-- A word ends at a blank or with the text. -/
theorem words_append (isWord : IsWord word) (apart : ∀ c ∈ text.head?, isBlank c = true)
    : Text.words (word ++ text) = word :: Text.words text := by
  obtain ⟨parts, behind⟩ : ∃ parts, splitWhere isBlank text = [] :: parts := by
    cases text with
    | nil => exact ⟨[], rfl⟩
    | cons c rest => exact ⟨splitWhere isBlank rest, by simp [splitWhere, apart c rfl]⟩
  simp [Text.words, splitWhere_append isWord.solid behind, behind, isWord.ne_nil]

/-- Words with a blank between them are the words of their text, by induction on them. -/
theorem words_intercalate {blank : Char} (isBlank : Text.isBlank blank = true)
    (areWords : ∀ word ∈ words, IsWord word)
    : Text.words ([blank].intercalate words) = words := by
  induction words with
  | nil => rfl
  | cons word words ih =>
      obtain ⟨isWord, areWords⟩ := List.forall_mem_cons.mp areWords
      cases words with
      | nil =>
          have ends : ∀ c ∈ ([] : List Char).head?, Text.isBlank c = true := by simp
          have alone := words_append isWord ends
          rw [List.append_nil] at alone
          rw [List.intercalate_singleton]
          exact alone
      | cons next words =>
          rw [List.intercalate_cons_cons, List.append_assoc, List.singleton_append,
            words_append isWord (by simpa using isBlank), words_cons_of_isBlank isBlank,
            ih areWords]

/-- A phrase has the words it is made of, by induction on its derivation. -/
theorem Phrase.words_eq (phrase : Phrase words text) : Text.words text = words := by
  induction phrase with
  | nil => rfl
  | blank isBlank _ ih => rw [words_cons_of_isBlank isBlank, ih]
  | word isWord apart _ ih => rw [words_append isWord apart, ih]

/-- Every text is a phrase of its words, by induction on the text: a character that is not blank
starts a word, or it goes in front of the word that the rest starts with.
-/
theorem phrase_words (text : List Char) : Phrase (Text.words text) text := by
  induction text with
  | nil => exact .nil
  | cons c rest ih =>
      cases blank : isBlank c with
      | true =>
          rw [words_cons_of_isBlank blank]
          exact .blank blank ih
      | false =>
          have alone : IsWord [c] := ⟨List.cons_ne_nil c [], by simpa [Solid] using blank⟩
          have start (apart : ∀ d ∈ rest.head?, isBlank d = true)
              : Phrase (Text.words (c :: rest)) (c :: rest) := by
            rw [← List.singleton_append, words_append alone apart]
            exact .word alone apart ih
          generalize Text.words rest = words at ih
          cases ih with
          | nil => exact start (by simp)
          | blank isBlank phrase => exact start (by simpa using isBlank)
          | @word word behind words isWord apart phrase =>
              have longer : IsWord (c :: word) :=
                ⟨List.cons_ne_nil c word, List.forall_mem_cons.mpr ⟨blank, isWord.solid⟩⟩
              rw [← List.cons_append, words_append longer apart, phrase.words_eq]
              exact .word longer apart phrase

end SqlCompiler.Text
