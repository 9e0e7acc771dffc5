import Mathlib.Data.List.Chain

/-! Lists joined with a separator: their members, their images, and what holds between
neighbours.
-/

namespace SqlCompiler.Text

variable {α β : Type}

/-- A member of a joined list is from the separator or from one of the lists, by induction on
the lists.
-/
theorem mem_intercalate {separator : List α} {lists : List (List α)} {a : α}
    (member : a ∈ separator.intercalate lists)
    : a ∈ separator ∨ ∃ list ∈ lists, a ∈ list := by
  induction lists with
  | nil => simp at member
  | cons first rest ih =>
      cases rest with
      | nil => exact Or.inr ⟨first, by simp, by simpa using member⟩
      | cons next rest =>
          simp only [List.intercalate_cons_cons, List.mem_append] at member
          rcases member with (inFirst | inSeparator) | later
          · exact Or.inr ⟨first, by simp, inFirst⟩
          · exact Or.inl inSeparator
          · exact (ih later).imp_right
              fun ⟨list, listed, member⟩ => ⟨list, List.mem_cons_of_mem _ listed, member⟩

/-- The members of the lists are all in the joined list, by induction on the lists. -/
theorem mem_intercalate_of_mem {separator list : List α} {lists : List (List α)} {a : α}
    (listed : list ∈ lists) (member : a ∈ list)
    : a ∈ separator.intercalate lists := by
  induction lists with
  | nil => cases listed
  | cons first rest ih =>
      cases rest with
      | nil =>
          obtain rfl := List.mem_singleton.mp listed
          simpa using member
      | cons next rest =>
          rw [List.intercalate_cons_cons]
          rcases List.mem_cons.mp listed with rfl | later
          · exact List.mem_append_left _ (List.mem_append_left _ member)
          · exact List.mem_append_right _ (ih later)

/-- Joining commutes with mapping, by induction on the lists. -/
theorem map_intercalate (f : α → β) (separator : List α) (lists : List (List α))
    : (separator.intercalate lists).map f
      = (separator.map f).intercalate (lists.map (List.map f)) := by
  induction lists with
  | nil => rfl
  | cons first rest ih =>
      cases rest with
      | nil => simp
      | cons next rest =>
          simp only [List.intercalate_cons_cons, List.map_cons, List.map_append] at ih ⊢
          rw [ih]

theorem flatMap_intercalate (f : α → List β) (separator : List α) (lists : List (List α))
    : (separator.intercalate lists).flatMap f
      = (separator.flatMap f).intercalate (lists.map (List.flatMap f)) := by
  induction lists with
  | nil => rfl
  | cons first rest ih =>
      cases rest with
      | nil => simp
      | cons next rest =>
          simp only [List.intercalate_cons_cons, List.map_cons, List.flatMap_append] at ih ⊢
          rw [ih]

theorem filter_intercalate (p : α → Bool) (separator : List α) (lists : List (List α))
    : (separator.intercalate lists).filter p
      = (separator.filter p).intercalate (lists.map (List.filter p)) := by
  induction lists with
  | nil => rfl
  | cons first rest ih =>
      cases rest with
      | nil => simp
      | cons next rest =>
          simp only [List.intercalate_cons_cons, List.map_cons, List.filter_append] at ih ⊢
          rw [ih]

/-- Lists joined in two parts have one more separator in between, by induction on the first part. -/
theorem intercalate_append_of_ne_nil (separator : List α) {left right : List (List α)}
    (someLeft : left ≠ []) (someRight : right ≠ [])
    : separator.intercalate (left ++ right)
      = separator.intercalate left ++ separator ++ separator.intercalate right := by
  induction left with
  | nil => exact absurd rfl someLeft
  | cons first rest ih =>
      cases rest with
      | nil => simp [List.intercalate_cons_of_ne_nil someRight]
      | cons next rest =>
          simp only [List.cons_append, List.intercalate_cons_cons] at ih ⊢
          rw [ih (List.cons_ne_nil _ _)]
          simp

/-- Elements joined with another one are what is left without it, by induction on them. -/
theorem filter_intercalate_singletons [DecidableEq α] {separator : α} {list : List α}
    (apart : separator ∉ list)
    : ([separator].intercalate (list.map fun a => [a])).filter (· ≠ separator) = list := by
  induction list with
  | nil => rfl
  | cons a rest ih =>
      have differs : a ≠ separator := (List.ne_of_not_mem_cons apart).symm
      have tail := ih (List.not_mem_of_not_mem_cons apart)
      cases rest with
      | nil => simp [differs]
      | cons next rest => simpa [differs] using tail

/-- Lists joined with one element are chained if each list is and the element is related to
everything on both sides, by induction on the lists.
-/
theorem isChain_intercalate (related : α → α → Prop) {separator : α}
    (before : ∀ a, related a separator) (after : ∀ a, related separator a)
    {lists : List (List α)} (chains : ∀ list ∈ lists, list.IsChain related)
    : ([separator].intercalate lists).IsChain related := by
  induction lists with
  | nil => exact .nil
  | cons first rest ih =>
      obtain ⟨chain, chains⟩ := List.forall_mem_cons.mp chains
      cases rest with
      | nil => simpa using chain
      | cons next rest =>
          rw [List.intercalate_cons_cons, List.append_assoc, List.singleton_append]
          refine List.isChain_append.mpr ⟨chain, ?_, ?_⟩
          · exact List.isChain_cons.mpr ⟨fun a _ => after a, ih chains⟩
          · intro a _ b isSeparator
            have same : separator = b := by simpa using isSeparator
            exact same ▸ before a

/-- Joined texts are the first of them and the others, each behind a separator. -/
theorem intercalate_cons (separator text : String) (texts : List String)
    : String.intercalate separator (text :: texts)
      = text ++ String.join (texts.map (separator ++ ·)) := by
  induction texts generalizing text with
  | nil => simp
  | cons next texts ih =>
      rw [String.intercalate_cons_cons, ih]
      simp [String.append_assoc]

/-- Joined texts that are the same but for one text have that one the same as well. -/
theorem eq_of_intercalate_eq {separator first left right : String} {front behind : List String}
    (same
      : String.intercalate separator (first :: (front ++ left :: behind))
        = String.intercalate separator (first :: (front ++ right :: behind)))
    : left = right := by
  simp only [intercalate_cons, List.map_append, List.map_cons, String.join_append,
    String.join_cons, ← String.append_assoc, String.append_left_inj] at same
  simpa [String.append_assoc] using same

/-- Two lists are the same up to their first separator if they are the same, and so is what
follows, by induction on the first part.
-/
theorem append_separator_inj {separator : α} {left right x y : List α}
    (notLeft : separator ∉ left) (notRight : separator ∉ right)
    (same : left ++ separator :: x = right ++ separator :: y)
    : left = right ∧ x = y := by
  induction left generalizing right with
  | nil =>
      cases right with
      | nil => exact ⟨rfl, (List.cons.inj same).2⟩
      | cons b right => exact absurd (List.cons.inj same).1 (List.ne_of_not_mem_cons notRight)
  | cons a left ih =>
      cases right with
      | nil => exact absurd (List.cons.inj same).1.symm (List.ne_of_not_mem_cons notLeft)
      | cons b right =>
          obtain ⟨rfl, tails⟩ := List.cons.inj same
          obtain ⟨equal, rests⟩ := ih (List.not_mem_of_not_mem_cons notLeft)
            (List.not_mem_of_not_mem_cons notRight) tails
          exact ⟨congrArg (a :: ·) equal, rests⟩

end SqlCompiler.Text
