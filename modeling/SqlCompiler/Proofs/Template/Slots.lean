import SqlCompiler.Proofs.Template.Filling

/-! The slots of templates that are put together: those of the parts, from left to right. Texts
and identifiers bring none, so nothing is lost where a blank part is left out.
-/

namespace SqlCompiler.Template

theorem slotValues_append (left right : Template)
    : (left ++ right).slotValues = left.slotValues ++ right.slotValues :=
  List.filterMap_append

theorem slotValues_ofValue (column : String) (value : Value)
    : (ofValue column value).slotValues = value.bound?.toList := by
  cases value <;> rfl

/-- Joining brings no slots in, by induction on the templates. -/
theorem slotValues_join (separator : String) (templates : List Template)
    : (join separator templates).slotValues = templates.flatMap slotValues := by
  induction templates with
  | nil => rfl
  | cons first rest ih =>
      cases rest with
      | nil => simp [join]
      | cons next rest =>
          rw [join, List.intercalate_cons_cons, slotValues_append, slotValues_append]
          rw [join] at ih
          simp [ih]

theorem slotValues_join_map {α : Type} (separator : String) (items : List α)
    (template : α → Template)
    : (join separator (items.map template)).slotValues
      = items.flatMap fun item => (template item).slotValues := by
  rw [slotValues_join, List.flatMap_map]

theorem slotValues_join_map_eq_nil {α : Type} (separator : String) {items : List α}
    {template : α → Template} (slotless : ∀ item ∈ items, (template item).slotValues = [])
    : (join separator (items.map template)).slotValues = [] := by
  rw [slotValues_join_map]
  exact List.flatMap_eq_nil_iff.mpr slotless

/-- A blank template has nothing but texts, since identifiers and placeholders are never empty. -/
theorem filterMap_of_isBlank {β : Type} {f : Piece → Option β}
    (noText : ∀ sql, f (.text sql) = none) {template : Template}
    (blank : template.isBlank = true)
    : template.filterMap f = [] := by
  refine List.filterMap_eq_nil_iff.mpr ?_
  intro piece member
  have empty := List.all_eq_true.mp blank piece member
  cases piece with
  | text sql => exact noText sql
  | name identifier => cases empty
  | slot column value => cases empty

theorem slotValues_of_isBlank {template : Template} (blank : template.isBlank = true)
    : template.slotValues = [] :=
  filterMap_of_isBlank (fun _ => rfl) blank

-----------------------------------------------------------------------------------------
-- Parts that may be left out
-----------------------------------------------------------------------------------------

/-- The values of the slots of a part; one that is left out has none. -/
def partValues (part : Option Template) : List SqlValue :=
  part.elim [] slotValues

/-- Leaving a blank template out loses no slot. -/
theorem partValues_nonBlank? (template : Template)
    : partValues template.nonBlank? = template.slotValues := by
  rw [nonBlank?]
  split
  · rename_i blank
    exact (slotValues_of_isBlank blank).symm
  · rfl

theorem partValues_headed (keyword : String) (template : Template)
    : partValues (template.headed keyword) = template.slotValues := by
  rw [← partValues_nonBlank? template, headed]
  cases template.nonBlank? <;> rfl

theorem partValues_enclosed (opening : String) (template : Template)
    : partValues (template.enclosed opening) = template.slotValues := by
  rw [← partValues_nonBlank? template, enclosed]
  cases template.nonBlank? with
  | none => rfl
  | some inner => simp [partValues, slotValues_append]

theorem flatMap_partValues (parts : List (Option Template))
    : (parts.filterMap id).flatMap slotValues = parts.flatMap partValues := by
  induction parts with
  | nil => rfl
  | cons part parts ih =>
      cases part with
      | none => simpa [partValues] using ih
      | some template => simpa [partValues] using ih

end SqlCompiler.Template
