import SqlCompiler.Proofs.Sql.Path

/-! The skeleton of an SQL text: what is left of it when every path of identifiers is taken for
one symbol. The skeletons of two texts are put together at every blank or comma.
-/

namespace SqlCompiler.Sql

/-- A part of a skeleton: a path of identifiers, or a character outside of paths. -/
inductive Symbol
  | path
  | char (c : Char)
deriving DecidableEq

namespace Lexeme

/-- An item of paths: a delimited identifier or a star. -/
def isItem : Lexeme → Bool
  | name _ => true
  | char c => c = '*'

/-- The symbol for a lexeme on its own. -/
def symbol : Lexeme → Symbol
  | name _ => .path
  | char c => if c = '*' then .path else .char c

/-- A blank or a comma, which belongs to no path. -/
def isGap : Lexeme → Bool
  | name _ => false
  | char c => Sql.isGap c

end Lexeme

/-- The skeleton of lexemes. An item is left out with the dot behind it when another item comes
next, so that the whole path becomes the symbol of its last item.
-/
def skeletonOf : List Lexeme → List Symbol
  | first :: second :: third :: rest =>
      if first.isItem && second = .char '.' && third.isItem then skeletonOf (third :: rest)
      else first.symbol :: skeletonOf (second :: third :: rest)
  | [first, second] => [first.symbol, second.symbol]
  | [first] => [first.symbol]
  | [] => []

/-- The skeleton of an SQL text, if it ends outside delimited identifiers. -/
def skeleton? (delimiter : Char) (sql : String) : Option (List Symbol) :=
  (lexemes? delimiter sql).map skeletonOf

/-- A lexeme that is no item stands for itself. -/
theorem skeletonOf_cons {lexeme : Lexeme} (notItem : lexeme.isItem = false)
    (rest : List Lexeme)
    : skeletonOf (lexeme :: rest) = lexeme.symbol :: skeletonOf rest := by
  match rest with
  | [] => rfl
  | [second] => rfl
  | second :: third :: rest => simp [skeletonOf, notItem]

theorem isItem_of_isGap {lexeme : Lexeme} (gap : lexeme.isGap = true)
    : lexeme.isItem = false ∧ lexeme ≠ .char '.' := by
  cases lexeme with
  | name content => cases gap
  | char c =>
      have cases : c = ' ' ∨ c = ',' := by simpa [Lexeme.isGap, isGap] using gap
      rcases cases with rfl | rfl <;> decide

/-- No path reaches over a gap at the start of what follows, by induction along the skeleton
of what comes before.
-/
theorem skeletonOf_append_gap (before : List Lexeme) {after : List Lexeme}
    (gap : ∀ lexeme ∈ after.head?, lexeme.isGap = true)
    : skeletonOf (before ++ after) = skeletonOf before ++ skeletonOf after := by
  cases after with
  | nil => simp [skeletonOf]
  | cons next after =>
      obtain ⟨notItem, notDot⟩ := isItem_of_isGap (gap next rfl)
      have alone (first : Lexeme)
          : skeletonOf (first :: next :: after)
            = first.symbol :: skeletonOf (next :: after) := by
        cases after with
        | nil => rfl
        | cons => simp [skeletonOf, notDot]
      fun_induction skeletonOf before with
      | case1 first second third rest joins ih =>
          simpa [skeletonOf, joins] using ih
      | case2 first second third rest apart ih =>
          simpa [skeletonOf, apart] using ih
      | case3 first second =>
          simp [skeletonOf, notItem, alone]
      | case4 first => simpa [skeletonOf] using alone first
      | case5 => rfl

/-- No path reaches over a gap at the end of what comes before. -/
theorem skeletonOf_gap_append (before : List Lexeme) {gap : Lexeme}
    (isGap : gap.isGap = true) (after : List Lexeme)
    : skeletonOf (before ++ gap :: after)
      = skeletonOf (before ++ [gap]) ++ skeletonOf after := by
  have starts (rest : List Lexeme)
      : ∀ lexeme ∈ (gap :: rest).head?, lexeme.isGap = true := by
    intro lexeme member
    have same : gap = lexeme := by simpa using member
    exact same ▸ isGap
  rw [skeletonOf_append_gap before (starts after), skeletonOf_append_gap before (starts []),
    skeletonOf_cons (isItem_of_isGap isGap).1, List.append_assoc]
  rfl

/-- Items with dots in between make one path, by induction on the items: each is left out when
the next one comes, and the last one gives the symbol.
-/
theorem skeletonOf_items (items : List Lexeme) (nonempty : items ≠ [])
    (areItems : ∀ item ∈ items, item.isItem = true)
    : skeletonOf (List.intercalate [.char '.'] (items.map ([·]))) = [.path] := by
  induction items with
  | nil => exact absurd rfl nonempty
  | cons first rest ih =>
      obtain ⟨isItem, areItems⟩ := List.forall_mem_cons.mp areItems
      cases rest with
      | nil =>
          cases first with
          | name content => rfl
          | char c => simpa [skeletonOf, Lexeme.symbol, Lexeme.isItem] using isItem
      | cons next rest =>
          obtain ⟨nextItem, _⟩ := List.forall_mem_cons.mp areItems
          have tail := ih (List.cons_ne_nil _ _) areItems
          rw [List.map_cons, List.intercalate_cons_cons_left] at tail
          rw [List.map_cons, List.map_cons, List.intercalate_cons_cons,
            List.intercalate_cons_cons_left]
          simpa [skeletonOf, isItem, nextItem] using tail

/-- A quoted identifier leaves one symbol, however many segments it has. -/
theorem skeletonOf_path (quoteChar : Char) (name : List Char)
    : skeletonOf (path quoteChar name) = [.path] := by
  have nonempty : (Identifier.segments quoteChar name).map (item quoteChar) ≠ [] := by
    simpa using segments_ne_nil quoteChar name
  have single := skeletonOf_items _ nonempty (by
    intro lexeme member
    obtain ⟨segment, _, rfl⟩ := List.mem_map.mp member
    rw [item]
    split <;> rfl)
  rwa [List.map_map] at single

end SqlCompiler.Sql
