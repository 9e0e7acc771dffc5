import SqlCompiler.Proofs.Criteria.Presence
import SqlCompiler.Proofs.Statement.Writing

/-! A raw fragment stands behind `AND`, and a connector that it starts with itself is dropped; but
only with a space behind it. Behind any other blank the connector stays, and the criteria have two
connectors in a row or start with one.
-/

namespace SqlCompiler

open Text

-----------------------------------------------------------------------------------------
-- Fragments
-----------------------------------------------------------------------------------------

/-- A word that ties conditions, in any case of its letters. -/
def IsConnector (word : List Char) : Prop :=
  lower word = "and".toList ∨ lower word = "or".toList

instance (word : List Char) : Decidable (IsConnector word) :=
  inferInstanceAs (Decidable (_ ∨ _))

/-- The first word of a text is a connector. -/
def StartsWithConnector (text : List Char) : Prop :=
  IsConnector (text.takeWhile fun c => !isBlank c)

instance (text : List Char) : Decidable (StartsWithConnector text) :=
  inferInstanceAs (Decidable (IsConnector _))

variable {before word between sql after : List Char}

theorem IsConnector.isWord (isConnector : IsConnector word) : IsWord word := by
  refine .of_lower ?_
  rcases isConnector with isAnd | isOr
  · exact isAnd ▸ by decide
  · exact isOr ▸ by decide

namespace Entry

/-- No text starts with two of the connectors, so the one that is there decides. -/
theorem findSome?_leadingConnectors (isConnector : IsConnector word) (blank : Char)
    (rest : List Char)
    : leadingConnectors.findSome? (afterKeyword? · (word ++ blank :: rest))
      = if blank = ' ' then some rest else none := by
  have otherKeyword {k : Char} {keyword : List Char} (differs : (lower word).head? ≠ some k)
      : afterKeyword? (k :: keyword) (word ++ blank :: rest) = none := by
    cases word with
    | nil => exact absurd rfl isConnector.isWord.ne_nil
    | cons c word =>
        have differs : c.toLower ≠ k := by simpa [lower] using differs
        rw [List.cons_append, afterKeyword?, if_neg differs]
  rw [leadingConnectors, List.findSome?_cons, List.findSome?_cons, List.findSome?_nil]
  rcases isConnector with isAnd | isOr
  · have own : afterKeyword? "and ".toList (word ++ blank :: rest) = _ :=
      afterKeyword?_word isAnd blank rest
    have other : afterKeyword? "or ".toList (word ++ blank :: rest) = none :=
      @otherKeyword 'o' ['r', ' '] (by rw [isAnd]; decide)
    rw [own, other]
    by_cases space : blank = ' '
    · simp only [if_pos space]
    · simp only [if_neg space]
  · have own : afterKeyword? "or ".toList (word ++ blank :: rest) = _ :=
      afterKeyword?_word isOr blank rest
    have other : afterKeyword? "and ".toList (word ++ blank :: rest) = none :=
      @otherKeyword 'a' ['n', 'd', ' '] (by rw [isOr]; decide)
    rw [own, other]
    by_cases space : blank = ' '
    · simp only [if_pos space]
    · simp only [if_neg space]

/-- A connector is dropped with the blanks behind it if the first of them is a space, and otherwise
stays.
-/
theorem dropConnector_layout (isConnector : IsConnector word) (isTrimmed : IsTrimmed sql)
    (blankBefore : Blanks before) (blankBetween : Blanks between) (apart : between ≠ [])
    (blankAfter : Blanks after)
    : dropConnector (before ++ (word ++ between ++ sql) ++ after)
      = if between.head? = some ' ' then sql else word ++ between ++ sql := by
  have trimmed := isConnector.isWord.isTrimmed_append between isTrimmed
  obtain ⟨first, others, rfl⟩ := List.exists_cons_of_ne_nil apart
  have found := findSome?_leadingConnectors isConnector first (others ++ sql)
  rw [← List.cons_append, ← List.append_assoc] at found
  simp only [dropConnector, trimmed.trim_around blankBefore blankAfter, found, List.head?_cons,
    Option.some.injEq]
  by_cases space : first = ' '
  · simp only [if_pos space]
    exact trimStart_append (List.forall_mem_cons.mp blankBetween).2 isTrimmed.starts
  · simp only [if_neg space]

end Entry

theorem startsWithConnector_append (isConnector : IsConnector word) (blank : Blanks between)
    (apart : between ≠ [])
    : StartsWithConnector (word ++ between ++ sql) := by
  obtain ⟨first, others, rfl⟩ := List.exists_cons_of_ne_nil apart
  have stops : isBlank first = true := blank first List.mem_cons_self
  rw [StartsWithConnector, List.append_assoc,
    List.takeWhile_append_of_pos isConnector.isWord.solid.passes]
  simpa [stops] using isConnector

-----------------------------------------------------------------------------------------
-- Fragments among other entries
-----------------------------------------------------------------------------------------

namespace Criteria

/-- An entry that shows stands behind the text of the entries before it, with its connector if they
have any.
-/
theorem template_append_cons (left right : List Entry) {entry : Entry}
    (shows : entry.template.isBlank = false)
    : (Criteria.mk (left ++ entry :: right)).template
      = (Criteria.mk left).template
        ++ (if (Criteria.mk left).template.isBlank then entry.template else connected entry)
        ++ (Criteria.mk right).written.flatMap connected := by
  have parts
      : (Criteria.mk (left ++ entry :: right)).written
        = (Criteria.mk left).written ++ entry :: (Criteria.mk right).written := by
    simp [written, List.filter_append, shows]
  cases isWritten : (Criteria.mk left).written with
  | nil =>
      rw [if_pos (isBlank_template_iff_written.mpr isWritten)]
      simp only [template, parts, isWritten, List.nil_append]
  | cons first others =>
      have shown : ¬ (Criteria.mk left).template.isBlank = true := by
        rw [isBlank_template_iff_written, isWritten]
        exact List.cons_ne_nil _ _
      rw [if_neg shown]
      simp only [template, parts, isWritten, List.cons_append, List.flatMap_append,
        List.flatMap_cons, List.append_assoc]

end Criteria

-----------------------------------------------------------------------------------------
-- Templates built in parts
-----------------------------------------------------------------------------------------

namespace Template

/-- Builds a template as criteria are built: with a binder its values are bound, and without one it
can have none.
-/
def build (quoteChar : Char) (template : Template)
    : Option Binder → Except CompileError (String × Option Binder)
  | some binder =>
      let (sql, last) := template.fill quoteChar binder
      .ok (sql, some last)
  | none => (template.literalText quoteChar).map (·, none)

/-- Literal texts are one after the other, by induction on the first template. -/
theorem literalText_append (quoteChar : Char) (left right : Template)
    : (left ++ right).literalText quoteChar
      = (left.literalText quoteChar).bind fun front =>
          (right.literalText quoteChar).map (front ++ ·) := by
  induction left with
  | nil =>
      simp only [List.nil_append, literalText, Except.bind]
      cases right.literalText quoteChar <;> simp [Except.map]
  | cons piece left ih =>
      cases piece with
      | text | name =>
          simp only [List.cons_append, literalText, ih]
          cases literalText quoteChar left with
          | error => rfl
          | ok front =>
              cases right.literalText quoteChar <;>
                simp [Except.bind, Except.map, String.append_assoc]
      | slot => rfl

theorem build_ofText (quoteChar : Char) (sql : String) (binder : Option Binder)
    : (ofText sql).build quoteChar binder = .ok (sql, binder) := by
  cases binder <;> simp [build, ofText, fill, literalText, Except.map]

/-- Templates one after the other are built one after the other, and the first that fails decides.
-/
theorem build_append (quoteChar : Char) (left right : Template) (binder : Option Binder)
    : (left ++ right).build quoteChar binder
      = (left.build quoteChar binder).bind fun (front, middle) =>
          (right.build quoteChar middle).map fun (behind, last) => (front ++ behind, last) := by
  cases binder with
  | some binder => simp only [build, fill_append, Except.bind, Except.map]
  | none =>
      simp only [build, literalText_append]
      cases left.literalText quoteChar with
      | error => rfl
      | ok front =>
          simp only [Except.bind, Except.map]
          cases right.literalText quoteChar <;> rfl

/-- Without slots the numbers of placeholders do not matter, by induction on the template. -/
theorem render_of_literalText {quoteChar : Char} {template : Template} {sql : String}
    (ok : template.literalText quoteChar = .ok sql) (placeholderPrefix : String) (number : Nat)
    : template.render quoteChar placeholderPrefix number = sql := by
  induction template generalizing sql with
  | nil => exact Except.ok.inj ok
  | cons piece rest ih =>
      cases piece with
      | text | name =>
          rw [literalText] at ok
          cases tail : literalText quoteChar rest with
          | error => rw [tail] at ok; cases ok
          | ok text =>
              rw [tail] at ok
              rw [render, ih tail]
              exact Except.ok.inj ok
      | slot => cases ok

/-- Only a blank template is built to nothing. -/
theorem eq_empty_iff_of_build {quoteChar : Char} {template : Template} {sql : String}
    {binder last : Option Binder} (ok : template.build quoteChar binder = .ok (sql, last))
    : sql = "" ↔ template.isBlank = true := by
  cases binder with
  | some binder =>
      obtain ⟨rfl, -⟩ := Prod.mk.inj (Except.ok.inj ok)
      exact fill_fst_eq_empty_iff
  | none =>
      rw [build] at ok
      cases literal : template.literalText quoteChar with
      | error => rw [literal] at ok; cases ok
      | ok text =>
          rw [literal] at ok
          obtain ⟨rfl, -⟩ := Prod.mk.inj (Except.ok.inj ok)
          rw [← render_of_literalText literal "" 0]
          exact render_eq_empty_iff

end Template

-----------------------------------------------------------------------------------------
-- Building criteria
-----------------------------------------------------------------------------------------

namespace Compiler

theorem buildCriteria_eq_build (compiler : Compiler) (criteria : Criteria)
    (binder : Option Binder)
    : compiler.buildCriteria criteria binder
      = criteria.template.build compiler.quoteChar binder := by
  cases binder <;> rfl

/-- A fragment that starts with a connector is written once behind the entries before it, and
behind `AND` if these have a text; whether there is a binder does not matter for it. Its own
connector is dropped exactly if the first blank behind it is a space. Behind any other blank it
stays, so that the fragment is written with a connector at its start.
-/
theorem buildCriteria_fragment (compiler : Compiler) (binder : Option Binder)
    (left right : List Entry) {before word between sql after : List Char}
    (isConnector : IsConnector word) (isTrimmed : IsTrimmed sql) (blankBefore : Blanks before)
    (blankBetween : Blanks between) (apart : between ≠ []) (blankAfter : Blanks after)
    : let written := if between.head? = some ' ' then sql else word ++ between ++ sql
      let fragment := Entry.raw (String.ofList (before ++ (word ++ between ++ sql) ++ after))
      let others : Template := (Criteria.mk right).written.flatMap Criteria.connected
      (compiler.buildCriteria ⟨left ++ fragment :: right⟩ binder
        = (compiler.buildCriteria ⟨left⟩ binder).bind fun (front, middle) =>
            (others.build compiler.quoteChar middle).map fun (behind, last) =>
              (front ++ (if front = "" then "" else " AND ") ++ String.ofList written ++ behind,
                last))
      ∧ (StartsWithConnector written ↔ between.head? ≠ some ' ' ∨ StartsWithConnector sql) := by
  intro written fragment others
  have isFragment : fragment.template = .ofText (String.ofList written) := by
    simp only [fragment, Entry.template, String.toList_ofList,
      Entry.dropConnector_layout isConnector isTrimmed blankBefore blankBetween apart blankAfter,
      written]
  have shows : fragment.template.isBlank = false := by
    have some : written ≠ [] := by
      simp only [written]
      split
      · exact isTrimmed.ne_nil
      · exact (isConnector.isWord.isTrimmed_append between isTrimmed).ne_nil
    simp [isFragment, Template.ofText, Template.isBlank, some]
  constructor
  · have connected
        : Criteria.connected fragment
          = Template.ofText " AND " ++ Template.ofText (String.ofList written) := by
      rw [← isFragment]
      rfl
    simp only [buildCriteria_eq_build, Criteria.template_append_cons left right shows,
      Template.build_append, isFragment, connected]
    rcases built : (Criteria.mk left).template.build compiler.quoteChar binder with
      error | ⟨front, middle⟩
    · rfl
    · have empty := Template.eq_empty_iff_of_build built
      by_cases blank : (Criteria.mk left).template.isBlank = true
      · simp only [if_pos blank, Template.build_ofText, Except.bind, Except.map,
          if_pos (empty.mpr blank), String.append_empty]
        rfl
      · simp only [if_neg blank, Template.build_append, Template.build_ofText, Except.bind,
          Except.map, if_neg (mt empty.mp blank), ← String.append_assoc]
        rfl
  · by_cases space : between.head? = some ' '
    · simp [written, space]
    · have stays := @startsWithConnector_append _ _ sql isConnector blankBetween apart
      simp only [written, if_neg space]
      exact ⟨fun _ => .inl space, fun _ => stays⟩

/-- A space and a line feed behind the connector, which is written with another one. -/
theorem buildCriteria_fragment_lineFeed
    : let left : List Entry := [.predicate ⟨"a", .compare .lt (.bind (.int 1)), .or⟩]
      let right : List Entry := [.predicate ⟨"b", .isNull, .or⟩]
      let last := (Binder.prepare {} (.int 1)).2
      IsConnector "oR".toList
      ∧ IsTrimmed "order_id > 1".toList
      ∧ Blanks "\t".toList
      ∧ Blanks " \n".toList
      ∧ Blanks "".toList
      ∧ (forDialect .generic).buildCriteria ⟨left ++ .raw "\toR \norder_id > 1" :: right⟩
          (some {})
        = .ok ("\"a\" < :db_prep_1 AND order_id > 1 OR \"b\" IS NULL", some last) := by
  intro left right last
  have isConnector : IsConnector "oR".toList := by decide
  have isTrimmed : IsTrimmed "order_id > 1".toList := by decide
  have before : Blanks "\t".toList := by decide
  have between : Blanks " \n".toList := by decide
  have after : Blanks "".toList := by decide
  obtain ⟨built, -⟩ :=
    buildCriteria_fragment (forDialect .generic) (some {}) left right isConnector isTrimmed before
      between (by decide) after
  exact ⟨isConnector, isTrimmed, before, between, after, built.trans (by decide +kernel)⟩

/-- A line feed keeps the connector, and the criteria have two of them in a row. -/
theorem buildCriteria_twoConnectors
    : let left : List Entry := [.predicate ⟨"a", .isNull, .and⟩]
      IsConnector "and".toList
      ∧ Blanks "\n".toList
      ∧ IsTrimmed "z = 1".toList
      ∧ ¬ StartsWithConnector "z = 1".toList
      ∧ (forDialect .generic).buildCriteria ⟨left ++ [.raw "and\nz = 1"]⟩ (some {})
        = .ok ("\"a\" IS NULL AND and\nz = 1", some {}) :=
  ⟨by decide, by decide, by decide, by decide, by decide +kernel⟩

end Compiler

end SqlCompiler
