import SqlCompiler.Proofs.Sql.Path
import SqlCompiler.Proofs.Template.Filling

/-! Templates whose pieces stay apart in the text: between two pieces there is always a blank or
a comma. The rendering of such a template is read piece by piece, unless a text in it has a
delimiter of its own.
-/

namespace SqlCompiler

open Sql

namespace Piece

/-- The piece is a text that starts with a blank or a comma. -/
def startsApart : Piece → Bool
  | text sql => sql.toList.head?.any isGap
  | name _ | slot _ _ => false

/-- The piece is a text that ends with a blank or a comma. -/
def endsApart : Piece → Bool
  | text sql => sql.toList.getLast?.any isGap
  | name _ | slot _ _ => false

/-- There is a blank or a comma where one piece ends and the next one starts. -/
def Apart (left right : Piece) : Prop :=
  left.endsApart = true ∨ right.startsApart = true

/-- The character does not occur in the piece, if that is a text. -/
def Avoids (c : Char) : Piece → Prop
  | text sql => c ∉ sql.toList
  | name _ | slot _ _ => True

end Piece

namespace Template

/-- Every piece is set apart from the next one. -/
def Spaced (template : Template) : Prop :=
  template.IsChain Piece.Apart

/-- The character occurs in no text of the template. -/
def Avoids (c : Char) (template : Template) : Prop :=
  ∀ piece ∈ template, piece.Avoids c

/-- What a template is read as when it is rendered. -/
def lexemes (quoteChar : Char) (placeholderPrefix : String)
    : (number : Nat) → Template → List Lexeme
  | _, [] => []
  | number, .text sql :: rest =>
      sql.toList.map .char ++ lexemes quoteChar placeholderPrefix number rest
  | number, .name identifier :: rest =>
      path quoteChar identifier.toList ++ lexemes quoteChar placeholderPrefix number rest
  | number, .slot _ _ :: rest =>
      (Binder.placeholder placeholderPrefix number).toList.map .char
        ++ lexemes quoteChar placeholderPrefix (number + 1) rest

/-- What stands behind a template is read with the numbers that the template leaves, by induction
on the pieces.
-/
theorem lexemes_append (quoteChar : Char) (placeholderPrefix : String) (number : Nat)
    (left right : Template)
    : (left ++ right).lexemes quoteChar placeholderPrefix number
      = left.lexemes quoteChar placeholderPrefix number
        ++ right.lexemes quoteChar placeholderPrefix (number + left.slotValues.length) := by
  induction left generalizing number with
  | nil => rfl
  | cons piece rest ih =>
      cases piece <;>
        simp [lexemes, ih, List.append_assoc, Nat.add_assoc, Nat.add_comm 1]

-----------------------------------------------------------------------------------------
-- Putting spaced templates together
-----------------------------------------------------------------------------------------

theorem Spaced.singleton (piece : Piece) : Spaced [piece] :=
  List.IsChain.singleton piece

theorem Spaced.tail {piece : Piece} {rest : Template} (h : Spaced (piece :: rest))
    : Spaced rest :=
  List.IsChain.tail h

/-- A template may follow a piece that ends apart. -/
theorem Spaced.cons {piece : Piece} {rest : Template} (ends : piece.endsApart = true)
    (h : Spaced rest)
    : Spaced (piece :: rest) :=
  List.isChain_cons.mpr ⟨fun _ _ => Or.inl ends, h⟩

/-- A template that starts apart may follow any template. -/
theorem Spaced.append {left : Template} {piece : Piece} {right : Template}
    (hl : Spaced left) (starts : piece.startsApart = true) (hr : Spaced (piece :: right))
    : Spaced (left ++ piece :: right) := by
  refine List.isChain_append.mpr ⟨hl, hr, ?_⟩
  intro _ _ next isFirst
  have same : piece = next := by simpa using isFirst
  exact Or.inr (same ▸ starts)

/-- Templates may be joined with a text that starts and ends apart. -/
theorem Spaced.join {separator : String} {templates : List Template}
    (starts : (Piece.text separator).startsApart = true)
    (ends : (Piece.text separator).endsApart = true)
    (h : ∀ template ∈ templates, template.Spaced)
    : (Template.join separator templates).Spaced :=
  Text.isChain_intercalate Piece.Apart (fun _ => Or.inr starts) (fun _ => Or.inl ends) h

theorem Spaced.join_map {α : Type} {separator : String} {items : List α}
    {template : α → Template} (starts : (Piece.text separator).startsApart = true)
    (ends : (Piece.text separator).endsApart = true)
    (h : ∀ item ∈ items, (template item).Spaced)
    : (Template.join separator (items.map template)).Spaced :=
  .join starts ends (List.forall_mem_map.mpr h)

-----------------------------------------------------------------------------------------
-- Putting templates together that avoid a character
-----------------------------------------------------------------------------------------

@[simp]
theorem avoids_nil (c : Char) : Avoids c [] := by
  simp [Avoids]

@[simp]
theorem avoids_cons (c : Char) (piece : Piece) (rest : Template)
    : Avoids c (piece :: rest) ↔ piece.Avoids c ∧ Avoids c rest :=
  List.forall_mem_cons

@[simp]
theorem avoids_append (c : Char) (left right : Template)
    : Avoids c (left ++ right) ↔ Avoids c left ∧ Avoids c right :=
  List.forall_mem_append

theorem Avoids.join {c : Char} {separator : String} {templates : List Template}
    (plain : c ∉ separator.toList) (h : ∀ template ∈ templates, template.Avoids c)
    : (Template.join separator templates).Avoids c := by
  intro piece member
  rcases Text.mem_intercalate member with isSeparator | ⟨template, listed, member⟩
  · rw [List.mem_singleton.mp isSeparator]
    exact plain
  · exact h template listed piece member

theorem Avoids.join_map {α : Type} {c : Char} {separator : String} {items : List α}
    {template : α → Template} (plain : c ∉ separator.toList)
    (h : ∀ item ∈ items, (template item).Avoids c)
    : (Template.join separator (items.map template)).Avoids c :=
  .join plain (List.forall_mem_map.mpr h)

-----------------------------------------------------------------------------------------
-- Reading a rendered template
-----------------------------------------------------------------------------------------

/-- Behind a piece that does not end apart, a template ends or goes on with a gap. -/
theorem Spaced.next {piece : Piece} {rest : Template} (h : Spaced (piece :: rest))
    (solid : piece.endsApart = false)
    : rest = []
      ∨ ∃ c text after,
          isGap c = true ∧ rest = .text (String.ofList (c :: text)) :: after := by
  cases rest with
  | nil => exact Or.inl rfl
  | cons next after =>
      have starts : next.startsApart = true := by
        simpa [Piece.Apart, solid] using (List.isChain_cons_cons.mp h).1
      cases next with
      | name identifier => cases starts
      | slot column value => cases starts
      | text sql =>
          cases chars : sql.toList with
          | nil => simp [Piece.startsApart, chars] at starts
          | cons c text =>
              have gap : isGap c = true := by simpa [Piece.startsApart, chars] using starts
              refine Or.inr ⟨c, text, after, gap, ?_⟩
              rw [← chars, String.ofList_toList]

/-- A rendered template is read as its lexemes, by induction on the pieces. -/
theorem Spaced.lexemes?_render {template : Template} {quoteChar : Char}
    {placeholderPrefix : String} (h : template.Spaced) (plain : template.Avoids quoteChar)
    (tokens : ∀ number, quoteChar ∉ (Binder.placeholder placeholderPrefix number).toList)
    (notDot : quoteChar ≠ '.') (notStar : quoteChar ≠ '*') (notGap : isGap quoteChar = false)
    (number : Nat)
    : lexemes? quoteChar (template.render quoteChar placeholderPrefix number)
      = some (template.lexemes quoteChar placeholderPrefix number) := by
  rw [lexemes?]
  induction template generalizing number with
  | nil => rfl
  | cons piece rest ih =>
      obtain ⟨plainPiece, plainRest⟩ := (avoids_cons _ _ _).mp plain
      cases piece with
      | text sql =>
          rw [render, lexemes, String.toList_append, lexemesFrom_plain plainPiece,
            ih h.tail plainRest]
          rfl
      | name identifier =>
          have apart
              : (render quoteChar placeholderPrefix number rest).toList.head?
                ≠ some quoteChar := by
            rcases h.next rfl with rfl | ⟨c, text, after, gap, rfl⟩
            · simp [render]
            · have differs : c ≠ quoteChar := by
                rintro rfl
                simp [notGap] at gap
              simpa [render] using differs
          rw [render, lexemes, String.toList_append,
            lexemesFrom_quote notDot notStar identifier apart, ih h.tail plainRest]
          rfl
      | slot column value =>
          rw [render, lexemes, String.toList_append, lexemesFrom_plain (tokens number),
            ih h.tail plainRest]
          rfl

end Template

end SqlCompiler
