import Mathlib.Data.List.Basic
import Mathlib.Data.List.TakeWhile
import SqlCompiler.Text.Blank
import SqlCompiler.Text.Case

/-! Trimming takes blanks only: a text of which nothing is left has no other characters, and what
is left neither starts nor ends with a blank. A text is cut at its first blank, and a keyword is
taken off it in any case of its letters.
-/

namespace SqlCompiler.Text

/-- A text of blanks, which may be empty. -/
def Blanks (text : List Char) : Prop :=
  ∀ c ∈ text, isBlank c = true

instance (text : List Char) : Decidable (Blanks text) :=
  List.decidableBAll _ text

theorem blanks_nil : Blanks [] :=
  List.forall_mem_nil _

/-- A text without blanks, which may be empty. -/
def Solid (text : List Char) : Prop :=
  ∀ c ∈ text, isBlank c = false

instance (text : List Char) : Decidable (Solid text) :=
  List.decidableBAll _ text

theorem Solid.passes {text : List Char} (solid : Solid text) : ∀ c ∈ text, (!isBlank c) = true := by
  simpa [Solid] using solid

/-- A text that is not empty and has no blanks. -/
structure IsWord (text : List Char) : Prop where
  ne_nil : text ≠ []
  solid : Solid text

instance (text : List Char) : Decidable (IsWord text) :=
  decidable_of_iff (text ≠ [] ∧ Solid text)
    ⟨fun ⟨nonempty, solid⟩ => ⟨nonempty, solid⟩, fun isWord => ⟨isWord.ne_nil, isWord.solid⟩⟩

/-- A text that is not empty and neither starts nor ends with a blank. -/
structure IsTrimmed (text : List Char) : Prop where
  ne_nil : text ≠ []
  starts : ∀ c ∈ text.head?, isBlank c = false
  ends : ∀ c ∈ text.getLast?, isBlank c = false

theorem isTrimmed_iff {text : List Char}
    : IsTrimmed text
      ↔ text ≠ []
        ∧ (text.head?.all fun c => !isBlank c) = true
        ∧ (text.getLast?.all fun c => !isBlank c) = true := by
  simp only [Option.all_eq_true, Bool.not_eq_true', ← Option.mem_def]
  exact ⟨fun isTrimmed => ⟨isTrimmed.ne_nil, isTrimmed.starts, isTrimmed.ends⟩,
    fun ⟨nonempty, starts, ends⟩ => ⟨nonempty, starts, ends⟩⟩

instance (text : List Char) : Decidable (IsTrimmed text) :=
  decidable_of_iff _ isTrimmed_iff.symm

-----------------------------------------------------------------------------------------
-- Trimming
-----------------------------------------------------------------------------------------

theorem trimStart_eq_nil_iff {text : List Char}
    : trimStart text = [] ↔ ∀ c ∈ text, isBlank c = true :=
  List.dropWhile_eq_nil_iff

/-- Only a text of blanks is trimmed to nothing. -/
theorem trim_eq_nil_iff {text : List Char}
    : trim text = [] ↔ ∀ c ∈ text, isBlank c = true := by
  rw [trim, trimEnd, List.reverse_eq_nil_iff, List.dropWhile_eq_nil_iff]
  constructor
  · intro blank c member
    rw [← List.takeWhile_append_dropWhile (p := isBlank) (l := text)] at member
    rcases List.mem_append.mp member with atStart | left
    · exact List.mem_takeWhile_imp atStart
    · exact blank c (List.mem_reverse.mpr left)
  · intro blank c member
    exact blank c ((List.dropWhile_sublist isBlank).mem (List.mem_reverse.mp member))

theorem isBlank_of_getLast?_trim {text : List Char} {c : Char}
    (last : (trim text).getLast? = some c)
    : isBlank c = false := by
  rw [trim, trimEnd, List.getLast?_reverse] at last
  have stopped := List.head?_dropWhile_not isBlank (trimStart text).reverse
  rw [last] at stopped
  simpa using stopped

theorem isBlank_of_isDigit {c : Char} (digit : c.isDigit = true) : isBlank c = false := by
  have code : 48 ≤ c.toNat ∧ c.toNat ≤ 57 := by
    simpa [Char.isDigit, UInt32.le_iff_toNat_le] using digit
  simp only [isBlank, blankRanges, List.any_cons, List.any_nil, Bool.or_false, Bool.or_eq_false_iff,
    Bool.and_eq_false_iff, decide_eq_false_iff_not]
  omega

theorem IsWord.isTrimmed {text : List Char} (isWord : IsWord text) : IsTrimmed text where
  ne_nil := isWord.ne_nil
  starts c starts := isWord.solid c (List.mem_of_mem_head? starts)
  ends c ends := isWord.solid c (List.mem_of_mem_getLast? ends)

/-- A trimmed text stays so behind a word. -/
theorem IsWord.isTrimmed_append {word text : List Char} (isWord : IsWord word)
    (between : List Char) (isTrimmed : IsTrimmed text)
    : IsTrimmed (word ++ between ++ text) where
  ne_nil := by simp [isWord.ne_nil]
  starts c starts := by
    rw [List.append_assoc, List.head?_append_of_ne_nil word isWord.ne_nil] at starts
    exact isWord.solid c (List.mem_of_mem_head? starts)
  ends c ends := by
    rw [List.getLast?_append_of_ne_nil _ isTrimmed.ne_nil] at ends
    exact isTrimmed.ends c ends

/-- Blanks at the start of a text that goes on with something else are trimmed. -/
theorem trimStart_append {before text : List Char} (blank : Blanks before)
    (starts : ∀ c ∈ text.head?, isBlank c = false)
    : trimStart (before ++ text) = text := by
  rw [trimStart, List.dropWhile_append_of_pos blank]
  cases text with
  | nil => rfl
  | cons c rest => rw [List.dropWhile_cons, starts c rfl]; rfl

/-- The blanks around a trimmed text are trimmed, and nothing else. -/
theorem IsTrimmed.trim_around {before text after : List Char} (isTrimmed : IsTrimmed text)
    (blankBefore : Blanks before) (blankAfter : Blanks after)
    : trim (before ++ text ++ after) = text := by
  have front : trimStart (before ++ (text ++ after)) = text ++ after :=
    trimStart_append blankBefore fun c starts =>
      isTrimmed.starts c (by rwa [List.head?_append_of_ne_nil _ isTrimmed.ne_nil] at starts)
  have back : trimStart (after.reverse ++ text.reverse) = text.reverse :=
    trimStart_append (fun c member => blankAfter c (List.mem_reverse.mp member))
      fun c starts => isTrimmed.ends c (by rwa [List.head?_reverse] at starts)
  rw [trim, List.append_assoc, front, trimEnd, List.reverse_append]
  exact (congrArg List.reverse back).trans (List.reverse_reverse text)

/-- Only blanks are trimmed. -/
theorem exists_around_trim (text : List Char)
    : ∃ before after, text = before ++ trim text ++ after ∧ Blanks before ∧ Blanks after := by
  let back := (trimStart text).reverse
  refine ⟨text.takeWhile isBlank, (back.takeWhile isBlank).reverse, ?parts,
    fun c member => List.mem_takeWhile_imp member,
    fun c member => List.mem_takeWhile_imp (List.mem_reverse.mp member)⟩
  case parts =>
    have ends : trim text ++ (back.takeWhile isBlank).reverse = trimStart text := by
      rw [trim, trimEnd, ← List.reverse_append, List.takeWhile_append_dropWhile,
        List.reverse_reverse]
    rw [List.append_assoc, ends, trimStart, List.takeWhile_append_dropWhile]

-----------------------------------------------------------------------------------------
-- Cutting at a blank
-----------------------------------------------------------------------------------------

/-- A text has no blanks, or it has a first one. -/
theorem solid_or_exists_blank (text : List Char)
    : Solid text
      ∨ ∃ front blank rest, text = front ++ blank :: rest ∧ Solid front ∧ isBlank blank = true := by
  induction text with
  | nil => exact .inl (List.forall_mem_nil _)
  | cons c text ih =>
      cases blank : isBlank c with
      | true => exact .inr ⟨[], c, text, rfl, List.forall_mem_nil _, blank⟩
      | false =>
          rcases ih with solid | ⟨front, first, rest, rfl, solid, isBlank⟩
          · exact .inl (List.forall_mem_cons.mpr ⟨blank, solid⟩)
          · exact .inr
              ⟨c :: front, first, rest, rfl, List.forall_mem_cons.mpr ⟨blank, solid⟩, isBlank⟩

/-- A text is cut where its first word ends. -/
theorem cutAtBlank?_append {word rest : List Char} {blank : Char} (solid : Solid word)
    (isBlank : isBlank blank = true)
    : cutAtBlank? (word ++ blank :: rest) = some (word, rest) := by
  rw [cutAtBlank?, List.dropWhile_append_of_pos solid.passes,
    List.takeWhile_append_of_pos solid.passes]
  simp [isBlank]

theorem cutAtBlank?_eq_none {text : List Char} (solid : Solid text)
    : cutAtBlank? text = none := by
  rw [cutAtBlank?, List.dropWhile_eq_nil_iff.mpr solid.passes]

-----------------------------------------------------------------------------------------
-- Keywords
-----------------------------------------------------------------------------------------

/-- A text starts with a keyword if its first characters, in lower case, are the keyword, by
induction on the keyword.
-/
theorem afterKeyword?_eq_some_iff {keyword text rest : List Char}
    : afterKeyword? keyword text = some rest
      ↔ ∃ start, text = start ++ rest ∧ lower start = keyword := by
  induction keyword generalizing text with
  | nil => simp [afterKeyword?, lower]
  | cons k keyword ih =>
      cases text with
      | nil => simp [afterKeyword?, lower]
      | cons c text =>
          simp only [afterKeyword?, Option.ite_none_right_eq_some, ih]
          constructor
          · rintro ⟨rfl, start, rfl, rfl⟩
            exact ⟨c :: start, rfl, rfl⟩
          · rintro ⟨start, parts, isKeyword⟩
            cases start with
            | nil => cases isKeyword
            | cons d start =>
                obtain ⟨rfl, rfl⟩ := List.cons.inj parts
                obtain ⟨first, others⟩ := List.cons.inj isKeyword
                exact ⟨first, start, rfl, others⟩

/-- Blanks have no lower case of their own. -/
theorem toLower_of_isBlank {c : Char} (blank : isBlank c = true) : c.toLower = c := by
  delta Char.toLower
  split
  · rename_i upper
    have isUpper : 65 ≤ c.toNat ∧ c.toNat ≤ 90 := by
      simpa [UInt32.le_iff_toNat_le] using upper
    simp only [isBlank, blankRanges, List.any_cons, List.any_nil, Bool.or_false, Bool.or_eq_true,
      Bool.and_eq_true, decide_eq_true_eq] at blank
    omega
  · rfl

/-- A keyword is a word in any case of its letters. -/
theorem IsWord.of_lower {word : List Char} (isWord : IsWord (lower word)) : IsWord word where
  ne_nil := by
    rintro rfl
    exact isWord.ne_nil rfl
  solid c member := by
    have lowered := isWord.solid c.toLower (List.mem_map_of_mem member)
    cases blank : isBlank c with
    | false => rfl
    | true => rw [toLower_of_isBlank blank, blank] at lowered; cases lowered

/-- No letter is a space in lower case. -/
theorem eq_of_toLower_eq_space {c : Char} (lowered : c.toLower = ' ') : c = ' ' := by
  delta Char.toLower at lowered
  split at lowered
  · rename_i upper
    have code : (c.toNat + 32) % 4294967296 = 32 := by
      simpa using congrArg Char.toNat lowered
    have isUpper : 65 ≤ c.toNat ∧ c.toNat ≤ 90 := by
      simpa [UInt32.le_iff_toNat_le] using upper
    omega
  · exact lowered

/-- A keyword that ends with a space is found behind a word only if a space follows it, by induction
on the keyword.
-/
theorem afterKeyword?_word {keyword word : List Char} (isKeyword : lower word = keyword)
    (blank : Char) (rest : List Char)
    : afterKeyword? (keyword ++ [' ']) (word ++ blank :: rest)
      = if blank = ' ' then some rest else none := by
  induction word generalizing keyword with
  | nil =>
      obtain rfl : [] = keyword := isKeyword
      have space : blank.toLower = ' ' ↔ blank = ' ' :=
        ⟨eq_of_toLower_eq_space, fun same => by rw [same]; rfl⟩
      simp [afterKeyword?, space]
  | cons c word ih =>
      obtain rfl : c.toLower :: lower word = keyword := isKeyword
      simpa [afterKeyword?] using ih rfl

/-- A text that does not end with a blank goes on behind a keyword that does. -/
theorem exists_notBlank_afterKeyword? {keyword text rest : List Char}
    (found : afterKeyword? (keyword ++ [' ']) text = some rest)
    (ends : ∀ c, text.getLast? = some c → isBlank c = false)
    : ∃ c ∈ rest, isBlank c = false := by
  obtain ⟨start, rfl, isKeyword⟩ := afterKeyword?_eq_some_iff.mp found
  cases last : rest.getLast? with
  | some c =>
      refine ⟨c, List.mem_of_getLast? last, ends c ?_⟩
      simp [List.getLast?_append, last]
  | none =>
      -- Nothing behind the keyword would leave its blank at the end.
      have empty : rest = [] := List.getLast?_eq_none_iff.mp last
      subst empty
      obtain ⟨front, back, rfl, _, isSpace⟩ := List.map_eq_append_iff.mp isKeyword
      obtain ⟨c, rfl, lowered⟩ := List.map_eq_singleton_iff.mp isSpace
      have blank := ends c (by simp)
      rw [eq_of_toLower_eq_space lowered] at blank
      cases blank

end SqlCompiler.Text
