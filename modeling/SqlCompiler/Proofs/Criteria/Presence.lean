import SqlCompiler.Proofs.Sql.Path
import SqlCompiler.Proofs.Template.Filling
import SqlCompiler.Proofs.Text.Blank

/-! Which criteria have no text: those whose entries are all raw fragments of blanks. A predicate
always shows, and so does whatever stands behind the connector of a raw fragment.
-/

namespace SqlCompiler

-----------------------------------------------------------------------------------------
-- Templates without text
-----------------------------------------------------------------------------------------

theorem Identifier.quoteSegment_ne_nil (quoteChar : Char) (segment : List Char)
    : quoteSegment quoteChar segment ≠ [] := by
  rw [Sql.quoteSegment_eq]
  split
  · exact List.cons_ne_nil _ _
  · exact List.cons_ne_nil _ _

/-- Even the empty identifier gets its delimiters. -/
theorem Identifier.quote_ne_empty (quoteChar : Char) (name : String)
    : quote quoteChar name ≠ "" := by
  intro empty
  have chars : quoteChars quoteChar name.toList = [] := by
    simpa [quote] using congrArg String.toList empty
  rw [quoteChars] at chars
  cases parts : segments quoteChar name.toList with
  | nil => exact Sql.segments_ne_nil _ _ parts
  | cons segment rest =>
      rw [parts] at chars
      cases rest with
      | nil => exact quoteSegment_ne_nil quoteChar segment (by simpa using chars)
      | cons next rest =>
          rw [List.map_cons, List.map_cons, List.intercalate_cons_cons] at chars
          simp at chars

theorem Binder.placeholder_ne_empty (placeholderPrefix : String) (number : Nat)
    : placeholder placeholderPrefix number ≠ "" := by
  intro empty
  have chars := congrArg String.toList empty
  simp [placeholder] at chars

/-- A rendered template is empty only if the template is blank, by induction on the pieces. -/
theorem Template.render_eq_empty_iff {quoteChar : Char} {placeholderPrefix : String}
    {number : Nat} {template : Template}
    : template.render quoteChar placeholderPrefix number = "" ↔ template.isBlank = true := by
  induction template generalizing number with
  | nil => simp [render, isBlank]
  | cons piece rest ih =>
      cases piece with
      | text sql => simp [render, String.append_eq_empty_iff, ih, isBlank]
      | name identifier =>
          simp [render, String.append_eq_empty_iff, isBlank,
            Identifier.quote_ne_empty quoteChar identifier]
      | slot column value =>
          simp [render, String.append_eq_empty_iff, isBlank,
            Binder.placeholder_ne_empty placeholderPrefix number]

theorem Template.fill_fst_eq_empty_iff {quoteChar : Char} {template : Template} {binder : Binder}
    : (template.fill quoteChar binder).1 = "" ↔ template.isBlank = true := by
  rw [fill_eq]
  exact render_eq_empty_iff

theorem Template.isBlank_append (left right : Template)
    : (left ++ right).isBlank = (left.isBlank && right.isBlank) :=
  List.all_append

-----------------------------------------------------------------------------------------
-- Entries and criteria without text
-----------------------------------------------------------------------------------------

/-- Every predicate shows, also one with an empty list. -/
theorem Predicate.isBlank_template (predicate : Predicate)
    : predicate.template.isBlank = false := by
  obtain ⟨column, relation, connector⟩ := predicate
  cases relation with
  | isIn values | notIn values => cases values <;> rfl
  | _ => rfl

namespace Entry

/-- An entry that has no text: a raw fragment of blanks. -/
def IsBlank : Entry → Prop
  | predicate _ => False
  | raw sql => ∀ c ∈ sql.toList, Text.isBlank c = true

theorem exists_keyword_of_mem_leadingConnectors {connector : List Char}
    (listed : connector ∈ leadingConnectors)
    : ∃ keyword, connector = keyword ++ [' '] := by
  rcases List.mem_pair.mp listed with rfl | rfl
  · exact ⟨"and".toList, by decide⟩
  · exact ⟨"or".toList, by decide⟩

/-- Dropping the connector leaves nothing only of a fragment in which nothing is. A trimmed
fragment does not end with the space of its connector, so there is more behind it.
-/
theorem dropConnector_eq_nil_iff {sql : List Char}
    : dropConnector sql = [] ↔ ∀ c ∈ sql, Text.isBlank c = true := by
  rw [← Text.trim_eq_nil_iff]
  simp only [dropConnector]
  split
  · rename_i rest found
    obtain ⟨connector, listed, found⟩ := List.exists_of_findSome?_eq_some found
    obtain ⟨keyword, rfl⟩ := exists_keyword_of_mem_leadingConnectors listed
    obtain ⟨c, member, notBlank⟩ :=
      Text.exists_notBlank_afterKeyword? found fun _ => Text.isBlank_of_getLast?_trim
    constructor
    · intro nothing
      rw [Text.trimStart_eq_nil_iff.mp nothing c member] at notBlank
      cases notBlank
    · intro nothing
      rw [nothing] at found
      cases keyword <;> cases found
  · exact Iff.rfl

theorem isBlank_template_iff {entry : Entry}
    : entry.template.isBlank = true ↔ entry.IsBlank := by
  cases entry with
  | predicate predicate => simp [template, predicate.isBlank_template, IsBlank]
  | raw sql =>
      rw [IsBlank, ← dropConnector_eq_nil_iff]
      simp [template, Template.ofText, Template.isBlank]

end Entry

namespace Criteria

theorem written_eq_nil_iff {criteria : Criteria}
    : criteria.written = [] ↔ ∀ entry ∈ criteria.entries, entry.IsBlank := by
  rw [written, List.filter_eq_nil_iff]
  simp [← Entry.isBlank_template_iff]

/-- Criteria are blank if no entry of them is written. -/
theorem isBlank_template_iff_written {criteria : Criteria}
    : criteria.template.isBlank = true ↔ criteria.written = [] := by
  rw [template]
  cases entries : criteria.written with
  | nil => simp [Template.isBlank]
  | cons first rest =>
      have listed : first ∈ criteria.written := entries ▸ List.mem_cons_self
      have shows : first.template.isBlank = false := by
        simpa using (List.mem_filter.mp listed).2
      simp [Template.isBlank_append, shows]

/-- Criteria have no text if no entry has any. -/
theorem isBlank_template_iff {criteria : Criteria}
    : criteria.template.isBlank = true ↔ ∀ entry ∈ criteria.entries, entry.IsBlank :=
  isBlank_template_iff_written.trans written_eq_nil_iff

end Criteria

end SqlCompiler
