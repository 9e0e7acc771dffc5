import SqlCompiler.Identifier
import SqlCompiler.Proofs.Sql.Lexeme
import SqlCompiler.Proofs.Text.Intercalate

/-! A quoted identifier is read as a path: stars and delimited identifiers with single dots in
between, one for every segment, whatever characters the identifier is made of.
-/

namespace SqlCompiler.Sql

open Text

/-- The name that a segment stands for: its content if it is in delimited form, and otherwise
the segment itself.
-/
def segmentName (quoteChar : Char) (segment : List Char) : List Char :=
  if isDelimited quoteChar segment then content quoteChar segment else segment

/-- What a quoted segment is read as. -/
def item (quoteChar : Char) (segment : List Char) : Lexeme :=
  if segment = ['*'] then .char '*' else .name (segmentName quoteChar segment)

/-- What a quoted identifier is read as. -/
def path (quoteChar : Char) (name : List Char) : List Lexeme :=
  List.intercalate [.char '.']
    ((Identifier.segments quoteChar name).map fun segment => [item quoteChar segment])

/-- A quoted segment is a star or a delimited name, whether or not it was delimited before. -/
theorem quoteSegment_eq (quoteChar : Char) (segment : List Char)
    : Identifier.quoteSegment quoteChar segment
      = if segment = ['*'] then ['*']
        else delimit quoteChar (segmentName quoteChar segment) := by
  by_cases star : segment = ['*']
  · simp [Identifier.quoteSegment, star]
  · cases delimited : isDelimited quoteChar segment with
    | true =>
        simp [Identifier.quoteSegment, segmentName, star, delimited,
          delimit_content delimited]
    | false => simp [Identifier.quoteSegment, segmentName, star, delimited]

/-- A quoted segment is read as one item. -/
theorem lexemesFrom_quoteSegment {quoteChar : Char} (notStar : quoteChar ≠ '*')
    (segment : List Char) {after : List Char} (apart : after.head? ≠ some quoteChar)
    : lexemesFrom quoteChar .outside (Identifier.quoteSegment quoteChar segment ++ after)
      = (lexemesFrom quoteChar .outside after).map (item quoteChar segment :: ·) := by
  rw [quoteSegment_eq, item]
  split
  · exact lexemesFrom_plain (by simpa using notStar) after
  · exact lexemesFrom_delimit apart (segmentName quoteChar segment)

/-- Quoted segments with dots in between are read as their items with dots in between, by
induction on the segments: a dot is no delimiter, so it sets every item apart from the next.
-/
theorem lexemesFrom_quoteSegments {quoteChar : Char} (notDot : quoteChar ≠ '.')
    (notStar : quoteChar ≠ '*') (segments : List (List Char)) {after : List Char}
    (apart : after.head? ≠ some quoteChar)
    : lexemesFrom quoteChar .outside
        (List.intercalate ['.'] (segments.map (Identifier.quoteSegment quoteChar)) ++ after)
      = (lexemesFrom quoteChar .outside after).map
          (List.intercalate [.char '.'] (segments.map fun s => [item quoteChar s]) ++ ·) := by
  induction segments with
  | nil => simp
  | cons segment rest ih =>
      cases rest with
      | nil =>
          simpa using lexemesFrom_quoteSegment notStar segment apart
      | cons next rest =>
          simp only [List.map_cons, List.intercalate_cons_cons, List.append_assoc,
            List.cons_append, List.nil_append] at ih ⊢
          have dotApart (tail : List Char) : ('.' :: tail).head? ≠ some quoteChar := by
            simpa using Ne.symm notDot
          rw [lexemesFrom_quoteSegment notStar segment (dotApart _), lexemesFrom,
            if_neg (Ne.symm notDot), ih, Option.map_map, Option.map_map]
          rfl

/-- A quoted identifier is read as its path, unless a delimiter follows. -/
theorem lexemesFrom_quote {quoteChar : Char} (notDot : quoteChar ≠ '.')
    (notStar : quoteChar ≠ '*') (name : String) {after : List Char}
    (apart : after.head? ≠ some quoteChar)
    : lexemesFrom quoteChar .outside
        ((Identifier.quote quoteChar name).toList ++ after)
      = (lexemesFrom quoteChar .outside after).map (path quoteChar name.toList ++ ·) := by
  rw [Identifier.quote, String.toList_ofList, Identifier.quoteChars]
  exact lexemesFrom_quoteSegments notDot notStar _ apart

/-- An identifier has at least one segment, by cases on its first character. -/
theorem segmentsFrom_ne_nil (quoteChar : Char) (quoted : Bool) (name : List Char)
    : Identifier.segmentsFrom quoteChar quoted name ≠ [] := by
  have consToFirst (c : Char) (segments : List (List Char))
      : Identifier.consToFirst c segments ≠ [] := by
    cases segments <;> exact List.cons_ne_nil _ _
  cases name with
  | nil => exact List.cons_ne_nil _ _
  | cons c rest =>
      rw [Identifier.segmentsFrom]
      split
      · exact consToFirst _ _
      split
      · exact List.cons_ne_nil _ _
      · exact consToFirst _ _

theorem segments_ne_nil (quoteChar : Char) (name : List Char)
    : Identifier.segments quoteChar name ≠ [] :=
  segmentsFrom_ne_nil quoteChar false name

/-- The only characters that a path shows are stars and dots. -/
theorem mem_path {quoteChar c : Char} {name : List Char}
    (member : .char c ∈ path quoteChar name)
    : c = '*' ∨ c = '.' := by
  rcases mem_intercalate member with dot | ⟨lexemes, listed, member⟩
  · exact Or.inr (by simpa using dot)
  · obtain ⟨segment, _, rfl⟩ := List.mem_map.mp listed
    have shown := List.mem_singleton.mp member
    rw [item] at shown
    split at shown
    · exact Or.inl (Lexeme.char.inj shown)
    · cases shown

-----------------------------------------------------------------------------------------
-- Writing a path back
-----------------------------------------------------------------------------------------

/-- How a lexeme is written. -/
def Lexeme.write (delimiter : Char) : Lexeme → List Char
  | .char c => [c]
  | .name content => delimit delimiter content

theorem write_item (quoteChar : Char) (segment : List Char)
    : (item quoteChar segment).write quoteChar = Identifier.quoteSegment quoteChar segment := by
  rw [quoteSegment_eq, item]
  split <;> rfl

/-- The path of an identifier is written as the identifier is quoted. -/
theorem flatMap_write_path (quoteChar : Char) (name : List Char)
    : (path quoteChar name).flatMap (Lexeme.write quoteChar)
      = Identifier.quoteChars quoteChar name := by
  rw [path, Text.flatMap_intercalate, List.map_map, Identifier.quoteChars]
  congr 1
  refine List.map_congr_left fun segment _ => ?_
  simpa using write_item quoteChar segment

/-- Identifiers that are read as one path are quoted alike. -/
theorem quote_eq_of_path_eq {quoteChar : Char} {left right : String}
    (same : path quoteChar left.toList = path quoteChar right.toList)
    : Identifier.quote quoteChar left = Identifier.quote quoteChar right := by
  rw [Identifier.quote, Identifier.quote, ← flatMap_write_path, ← flatMap_write_path, same]

end SqlCompiler.Sql
