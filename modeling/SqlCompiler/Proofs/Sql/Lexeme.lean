import Mathlib.Data.List.Basic
import SqlCompiler.Binder
import SqlCompiler.Text.Delimited

/-! How SQL text is read: delimited identifiers are taken as a whole, and all else character by
character. What lies behind a text is read on its own, unless the text ends with an identifier
and a delimiter comes next.
-/

namespace SqlCompiler.Sql

open Text

/-- What a reader sees: a character outside delimited identifiers, or such an identifier with
its content, in which the delimiter stands once.
-/
inductive Lexeme
  | char (c : Char)
  | name (content : List Char)
deriving DecidableEq

/-- The characters that set the parts of a statement apart: blanks and commas. -/
def isGap (c : Char) : Bool :=
  c = ' ' || c = ','

/-- Where a reader stands. Behind a delimiter inside an identifier, the identifier has ended
unless another delimiter follows.
-/
inductive Place
  | outside
  | inside (content : List Char)
  | closing (content : List Char)

/-- The lexemes from a place on; there are none if the text ends inside an identifier. -/
def lexemesFrom (delimiter : Char) : Place → List Char → Option (List Lexeme)
  | .outside, [] => some []
  | .inside _, [] => none
  | .closing content, [] => some [.name content]
  | .outside, c :: rest =>
      if c = delimiter then lexemesFrom delimiter (.inside []) rest
      else (lexemesFrom delimiter .outside rest).map (.char c :: ·)
  | .inside content, c :: rest =>
      if c = delimiter then lexemesFrom delimiter (.closing content) rest
      else lexemesFrom delimiter (.inside (content ++ [c])) rest
  | .closing content, c :: rest =>
      if c = delimiter then lexemesFrom delimiter (.inside (content ++ [c])) rest
      else
        (lexemesFrom delimiter .outside rest).map fun lexemes =>
          .name content :: .char c :: lexemes

/-- The lexemes of an SQL text, if it ends outside delimited identifiers. -/
def lexemes? (delimiter : Char) (sql : String) : Option (List Lexeme) :=
  lexemesFrom delimiter .outside sql.toList

-----------------------------------------------------------------------------------------
-- Texts one after the other
-----------------------------------------------------------------------------------------

/-- A text without delimiters is read character by character, whatever follows, by induction
on the text.
-/
theorem lexemesFrom_plain {delimiter : Char} {text : List Char} (plain : delimiter ∉ text)
    (after : List Char)
    : lexemesFrom delimiter .outside (text ++ after)
      = (lexemesFrom delimiter .outside after).map (text.map .char ++ ·) := by
  induction text with
  | nil => simp
  | cons c text ih =>
      have differs : c ≠ delimiter := (List.ne_of_not_mem_cons plain).symm
      simp only [List.cons_append, lexemesFrom, if_neg differs,
        ih (List.not_mem_of_not_mem_cons plain), Option.map_map]
      rfl

/-- Unless a delimiter follows, an identifier that may be over is over. -/
theorem lexemesFrom_closing {delimiter : Char} {after : List Char}
    (apart : after.head? ≠ some delimiter) (content : List Char)
    : lexemesFrom delimiter (.closing content) after
      = (lexemesFrom delimiter .outside after).map (.name content :: ·) := by
  cases after with
  | nil => rfl
  | cons c rest =>
      have differs : c ≠ delimiter := by simpa using apart
      simp only [lexemesFrom, if_neg differs, Option.map_map]
      rfl

/-- Inside an identifier a text with its delimiters written twice is read as its content, up to
the delimiter that closes it, by induction on the text.
-/
theorem lexemesFrom_double {delimiter : Char} {after : List Char}
    (apart : after.head? ≠ some delimiter) (read text : List Char)
    : lexemesFrom delimiter (.inside read) (double delimiter text ++ delimiter :: after)
      = (lexemesFrom delimiter .outside after).map (.name (read ++ text) :: ·) := by
  induction text generalizing read with
  | nil => simp [double, lexemesFrom, lexemesFrom_closing apart]
  | cons c text ih =>
      have rest := ih (read ++ [c])
      rw [List.append_assoc, List.singleton_append] at rest
      by_cases same : c = delimiter
      · subst same
        simpa [double, lexemesFrom] using rest
      · simpa [double, lexemesFrom, same] using rest

/-- A delimited text is read as one identifier. -/
theorem lexemesFrom_delimit {delimiter : Char} {after : List Char}
    (apart : after.head? ≠ some delimiter) (content : List Char)
    : lexemesFrom delimiter .outside (delimit delimiter content ++ after)
      = (lexemesFrom delimiter .outside after).map (.name content :: ·) := by
  simpa [delimit, lexemesFrom] using lexemesFrom_double apart [] content

/-- A delimited text ends where its delimiters say, so no other one starts it. -/
theorem eq_of_delimit_eq_append {delimiter : Char} {content name after : List Char}
    (apart : after.head? ≠ some delimiter)
    (same : delimit delimiter content = delimit delimiter name ++ after)
    : content = name := by
  have alone
      : lexemesFrom delimiter .outside (delimit delimiter content) = some [.name content] := by
    have none : ([] : List Char).head? ≠ some delimiter := by simp
    simpa [lexemesFrom] using lexemesFrom_delimit none content
  rw [same, lexemesFrom_delimit apart, Option.map_eq_some_iff] at alone
  obtain ⟨lexemes, -, read⟩ := alone
  exact (Lexeme.name.inj (List.cons.inj read).1).symm

-----------------------------------------------------------------------------------------
-- Texts in delimited form
-----------------------------------------------------------------------------------------

/-- The text of which `double` makes the given one: of every two delimiters one is left out. -/
def undouble (delimiter : Char) : List Char → List Char
  | [] => []
  | [c] => [c]
  | c :: d :: rest =>
      if c = delimiter then c :: undouble delimiter rest
      else c :: undouble delimiter (d :: rest)

/-- A text in which delimiters come in pairs is doubled, by induction along the pairs. -/
theorem double_undouble {delimiter : Char} {text : List Char}
    (doubled : isDoubled delimiter text = true)
    : double delimiter (undouble delimiter text) = text := by
  fun_induction isDoubled delimiter text with
  | case1 => rfl
  | case2 c =>
      have differs : c ≠ delimiter := by simpa using doubled
      simp [undouble, double, differs]
  | case3 d rest ih =>
      obtain ⟨same, doubled⟩ := Bool.and_eq_true_iff.mp doubled
      have same : d = delimiter := by simpa using same
      have tail := ih doubled
      unfold double at tail ⊢
      simp [undouble, tail, same]
  | case4 c d rest differs ih =>
      have tail := ih doubled
      unfold double at tail ⊢
      simp [undouble, tail, differs]

/-- The content of a text in delimited form. -/
def content (delimiter : Char) (text : List Char) : List Char :=
  undouble delimiter text.tail.dropLast

/-- A text in delimited form is its content, delimited. -/
theorem delimit_content {delimiter : Char} {text : List Char}
    (delimited : isDelimited delimiter text = true)
    : delimit delimiter (content delimiter text) = text := by
  cases text with
  | nil => simp [isDelimited] at delimited
  | cons first rest =>
      simp only [isDelimited, Bool.and_eq_true, decide_eq_true_eq] at delimited
      obtain ⟨⟨rfl, last⟩, doubled⟩ := delimited
      have inner : rest.dropLast ++ [first] = rest :=
        List.dropLast_append_getLast? first last
      rw [delimit, content, List.tail_cons, double_undouble doubled, inner]

/-- Without delimiters a text is doubled as it is, by induction on the text. -/
theorem double_of_notMem {delimiter : Char} {text : List Char} (plain : delimiter ∉ text)
    : double delimiter text = text := by
  unfold double
  induction text with
  | nil => rfl
  | cons c text ih =>
      have differs : c ≠ delimiter := (List.ne_of_not_mem_cons plain).symm
      simp [differs, ih (List.not_mem_of_not_mem_cons plain)]

theorem isDoubled_cons {delimiter c : Char} (differs : c ≠ delimiter) (text : List Char)
    : isDoubled delimiter (c :: text) = isDoubled delimiter text := by
  cases text with
  | nil => simp [isDoubled, differs]
  | cons d rest => simp [isDoubled, differs]

/-- In a doubled text delimiters come in pairs, by induction on the text. -/
theorem isDoubled_double (delimiter : Char) (text : List Char)
    : isDoubled delimiter (double delimiter text) = true := by
  unfold double
  induction text with
  | nil => rfl
  | cons c text ih =>
      by_cases same : c = delimiter
      · simpa [isDoubled, same] using ih
      · simpa [isDoubled_cons same, same] using ih

/-- The texts in delimited form are those that delimiting yields. -/
theorem isDelimited_iff {delimiter : Char} {text : List Char}
    : isDelimited delimiter text = true ↔ ∃ content, text = delimit delimiter content := by
  constructor
  · intro delimited
    exact ⟨content delimiter text, (delimit_content delimited).symm⟩
  · rintro ⟨content, rfl⟩
    simp [isDelimited, delimit, isDoubled_double]

end SqlCompiler.Sql
