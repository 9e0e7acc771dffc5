import SqlCompiler.Proofs.Criteria.Presence
import SqlCompiler.Proofs.Statement.Writing
import SqlCompiler.Proofs.Template.Slots

/-! Criteria one after the other. Their text is that of their entries, as far as these have any, and
only the first of them stands without its connector; so two lists of criteria are tied with the
connector of the first entry of the second list that has a text.
-/

namespace SqlCompiler

-----------------------------------------------------------------------------------------
-- Filling blank templates
-----------------------------------------------------------------------------------------

namespace Template

variable {quoteChar : Char} {template : Template} {binder : Binder}

/-- A blank template has no text, and nothing is bound for it. -/
theorem fill_of_isBlank (blank : template.isBlank = true)
    : template.fill quoteChar binder = ("", binder) := by
  rw [fill_eq, render_eq_empty_iff.mpr blank, slotValues_of_isBlank blank]
  rfl

end Template

namespace Criteria

-----------------------------------------------------------------------------------------
-- Terms
-----------------------------------------------------------------------------------------

/-- The text of an entry, and what ties it to the text before it. -/
structure Term where
  connector : Connector
  sql : String

/-- A term behind its connector. -/
def Term.tied (term : Term) : String :=
  " " ++ term.connector.keyword ++ " " ++ term.sql

/-- Terms one after the other, the first of them without its connector. -/
def textOf : List Term → String
  | [] => ""
  | first :: rest => first.sql ++ String.join (rest.map Term.tied)

/-- The terms of the entries that have a text, each entry written with the binder that the entries
before it have left.
-/
def terms (quoteChar : Char) : List Entry → Binder → List Term × Binder
  | [], binder => ([], binder)
  | entry :: rest, binder =>
      let (sql, next) := entry.template.fill quoteChar binder
      let (others, last) := terms quoteChar rest next
      (if sql = "" then others else ⟨entry.connector, sql⟩ :: others, last)

/-- Terms in two parts are tied with the connector of the second part. -/
theorem textOf_append_cons {left : List Term} (some : left ≠ []) (first : Term)
    (right : List Term)
    : textOf (left ++ first :: right)
      = textOf left ++ " " ++ first.connector.keyword ++ " " ++ textOf (first :: right) := by
  cases left with
  | nil => exact absurd rfl some
  | cons next left => simp [textOf, Term.tied, String.append_assoc]

variable {quoteChar : Char} {entry : Entry} {entries left right : List Entry}
  {binder middle last : Binder} {front behind found : List Term}

theorem terms_of_isBlank (blank : entry.template.isBlank = true)
    : terms quoteChar (entry :: entries) binder = terms quoteChar entries binder := by
  simp only [terms, Template.fill_of_isBlank blank, if_pos]

theorem terms_of_shows (shows : entry.template.isBlank = false)
    : let (sql, next) := entry.template.fill quoteChar binder
      let (others, last) := terms quoteChar entries next
      terms quoteChar (entry :: entries) binder
        = (⟨entry.connector, sql⟩ :: others, last) := by
  have some : (entry.template.fill quoteChar binder).1 ≠ "" := by
    rw [ne_eq, Template.fill_fst_eq_empty_iff, shows]
    exact Bool.false_ne_true
  simp only [terms, if_neg some]

/-- Blank entries at the start are skipped, by induction on them. -/
theorem terms_append_of_isBlank (blank : ∀ entry ∈ left, entry.IsBlank)
    : terms quoteChar (left ++ right) binder = terms quoteChar right binder := by
  induction left with
  | nil => rfl
  | cons entry left ih =>
      obtain ⟨isBlank, blank⟩ := List.forall_mem_cons.mp blank
      rw [List.cons_append, terms_of_isBlank (Entry.isBlank_template_iff.mpr isBlank), ih blank]

/-- The terms of two lists are the terms of the one and then those of the other, by induction on the
first list.
-/
theorem terms_append (isFront : terms quoteChar left binder = (front, middle))
    (isBehind : terms quoteChar right middle = (behind, last))
    : terms quoteChar (left ++ right) binder = (front ++ behind, last) := by
  induction left generalizing binder front with
  | nil =>
      obtain ⟨rfl, rfl⟩ := Prod.mk.inj isFront
      exact isBehind
  | cons entry left ih =>
      rcases tail : terms quoteChar left (entry.template.fill quoteChar binder).2 with
        ⟨others, next⟩
      simp only [terms, tail] at isFront
      obtain ⟨rfl, rfl⟩ := Prod.mk.inj isFront
      simp only [List.cons_append, terms, ih tail]
      split
      · rfl
      · rfl

/-- Only entries with a text have terms, by induction on the entries. -/
theorem sql_ne_empty (isFound : terms quoteChar entries binder = (found, last))
    : ∀ term ∈ found, term.sql ≠ "" := by
  induction entries generalizing binder found with
  | nil =>
      obtain ⟨rfl, -⟩ := Prod.mk.inj isFound
      simp
  | cons entry entries ih =>
      rcases tail : terms quoteChar entries (entry.template.fill quoteChar binder).2 with
        ⟨others, next⟩
      simp only [terms, tail] at isFound
      obtain ⟨rfl, rfl⟩ := Prod.mk.inj isFound
      split
      · exact ih tail
      · rename_i some
        exact List.forall_mem_cons.mpr ⟨some, ih tail⟩

theorem eq_nil_of_textOf_eq_empty (isFound : terms quoteChar entries binder = (found, last))
    (empty : textOf found = "")
    : found = [] := by
  cases found with
  | nil => rfl
  | cons first rest =>
      have some := sql_ne_empty isFound first List.mem_cons_self
      simp [textOf, some] at empty

-----------------------------------------------------------------------------------------
-- Templates of criteria
-----------------------------------------------------------------------------------------

theorem written_of_isBlank (blank : entry.template.isBlank = true)
    : (Criteria.mk (entry :: entries)).written = (Criteria.mk entries).written := by
  simp [written, blank]

theorem written_of_shows (shows : entry.template.isBlank = false)
    : (Criteria.mk (entry :: entries)).written = entry :: (Criteria.mk entries).written := by
  simp [written, shows]

/-- Entries behind the first are filled with their connectors, by induction on the entries. -/
theorem fill_connected (isFound : terms quoteChar entries binder = (found, last))
    : Template.fill quoteChar ((Criteria.mk entries).written.flatMap connected) binder
      = (String.join (found.map Term.tied), last) := by
  induction entries generalizing binder found with
  | nil =>
      obtain ⟨rfl, rfl⟩ := Prod.mk.inj isFound
      rfl
  | cons entry rest ih =>
      cases blank : entry.template.isBlank with
      | true =>
          rw [terms_of_isBlank blank] at isFound
          rw [written_of_isBlank blank, ih isFound]
      | false =>
          rw [terms_of_shows blank] at isFound
          obtain ⟨rfl, rfl⟩ := Prod.mk.inj isFound
          rw [written_of_shows blank, List.flatMap_cons, Template.fill_append, connected,
            Template.fill, ih rfl]
          simp [Term.tied, String.append_assoc]

/-- Criteria are filled with the text of their terms, by induction on the entries: blank entries at
the start are skipped, and the first one that shows stands without its connector.
-/
theorem fill_template (isFound : terms quoteChar entries binder = (found, last))
    : (Criteria.mk entries).template.fill quoteChar binder = (textOf found, last) := by
  induction entries with
  | nil =>
      obtain ⟨rfl, rfl⟩ := Prod.mk.inj isFound
      rfl
  | cons entry rest ih =>
      cases blank : entry.template.isBlank with
      | true =>
          rw [terms_of_isBlank blank] at isFound
          rw [template, written_of_isBlank blank, ← template, ih isFound]
      | false =>
          rw [terms_of_shows blank] at isFound
          obtain ⟨rfl, rfl⟩ := Prod.mk.inj isFound
          rw [template, written_of_shows blank, Template.fill_append, fill_connected rfl, textOf]

theorem textOf_eq_empty_iff (isFound : terms quoteChar entries binder = (found, last))
    : textOf found = "" ↔ ∀ entry ∈ entries, entry.IsBlank := by
  have empty := @Template.fill_fst_eq_empty_iff quoteChar (Criteria.mk entries).template binder
  rw [fill_template isFound] at empty
  exact empty.trans isBlank_template_iff

end Criteria

-----------------------------------------------------------------------------------------
-- Building criteria
-----------------------------------------------------------------------------------------

namespace Compiler

/-- Criteria are built from their terms. -/
theorem buildCriteria_of_terms {compiler : Compiler} {entries : List Entry}
    {binder last : Binder} {found : List Criteria.Term}
    (isFound : Criteria.terms compiler.quoteChar entries binder = (found, last))
    : compiler.buildCriteria ⟨entries⟩ (some binder)
      = .ok (Criteria.textOf found, some last) := by
  simp only [buildCriteria, Criteria.fill_template isFound]

/-- Two lists of criteria one after the other bind what the first list and then the second one
bind. Their texts are tied with the connector of the first entry of the second list that has a text;
if one of the lists has no text, the other one stands alone. So in any list only the first entry
with a text loses its connector, whatever entries without one are before it.
-/
theorem buildCriteria_append (compiler : Compiler) (left right : List Entry) (binder : Binder)
    : (∃ front middle behind last,
        compiler.buildCriteria ⟨left⟩ (some binder) = .ok (front, some middle)
        ∧ compiler.buildCriteria ⟨right⟩ (some middle) = .ok (behind, some last)
        ∧ (front = "" ↔ ∀ entry ∈ left, entry.IsBlank)
        ∧ (behind = "" ↔ ∀ entry ∈ right, entry.IsBlank)
        ∧ ∃ sql,
            compiler.buildCriteria ⟨left ++ right⟩ (some binder) = .ok (sql, some last)
            ∧ (behind = "" → sql = front)
            ∧ (front = "" → sql = behind)
            ∧ ∀ skipped first others,
                right = skipped ++ first :: others
                → (∀ entry ∈ skipped, entry.IsBlank)
                → ¬ first.IsBlank
                → front ≠ ""
                → sql = front ++ " " ++ first.connector.keyword ++ " " ++ behind)
      ∧ ∀ entries,
          let (terms, last) := Criteria.terms compiler.quoteChar entries binder
          compiler.buildCriteria ⟨entries⟩ (some binder)
            = .ok (Criteria.textOf terms, some last) := by
  refine ⟨?_, fun entries => buildCriteria_of_terms rfl⟩
  rcases isFront : Criteria.terms compiler.quoteChar left binder with ⟨front, middle⟩
  rcases isBehind : Criteria.terms compiler.quoteChar right middle with ⟨behind, last⟩
  refine ⟨Criteria.textOf front, middle, Criteria.textOf behind, last,
    buildCriteria_of_terms isFront, buildCriteria_of_terms isBehind,
    Criteria.textOf_eq_empty_iff isFront, Criteria.textOf_eq_empty_iff isBehind,
    Criteria.textOf (front ++ behind),
    buildCriteria_of_terms (Criteria.terms_append isFront isBehind), ?left, ?right, ?tied⟩
  case left =>
    intro empty
    rw [Criteria.eq_nil_of_textOf_eq_empty isBehind empty, List.append_nil]
  case right =>
    intro empty
    rw [Criteria.eq_nil_of_textOf_eq_empty isFront empty, List.nil_append]
  case tied =>
    rintro skipped first others rfl blank notBlank some
    have shows : first.template.isBlank = false :=
      Bool.eq_false_iff.mpr (mt Entry.isBlank_template_iff.mp notBlank)
    have someFront : front ≠ [] := by
      rintro rfl
      exact some rfl
    rw [Criteria.terms_append_of_isBlank blank, Criteria.terms_of_shows shows] at isBehind
    obtain ⟨rfl, -⟩ := Prod.mk.inj isBehind
    exact Criteria.textOf_append_cons someFront _ _

/-- Blank fragments in front of both lists, a range with a raw end, and a fragment that brings a
connector of its own.
-/
theorem buildCriteria_append_blank
    : let left : List Entry :=
        [.raw " \n", .predicate ⟨"a", .between (.bind (.int 1)) (.raw "NOW()"), .or⟩]
      let right : List Entry :=
        [.raw "", .predicate ⟨"b", .compare .lt (.bind (.int 2)), .or⟩, .raw "and z = 1"]
      let front := "\"a\" BETWEEN :db_prep_1 AND NOW()"
      let behind := "\"b\" < :db_prep_2 AND z = 1"
      let middle := (Binder.prepareAll {} [.int 1]).2
      let last := (Binder.prepareAll {} [.int 1, .int 2]).2
      (forDialect .generic).buildCriteria ⟨left⟩ (some {}) = .ok (front, some middle)
      ∧ (forDialect .generic).buildCriteria ⟨right⟩ (some middle) = .ok (behind, some last)
      ∧ (forDialect .generic).buildCriteria ⟨left ++ right⟩ (some {})
        = .ok (front ++ " OR " ++ behind, some last) := by
  intro left right front behind middle last
  have builtLeft
      : (forDialect .generic).buildCriteria ⟨left⟩ (some {}) = .ok (front, some middle) := by
    decide +kernel
  have builtRight
      : (forDialect .generic).buildCriteria ⟨right⟩ (some middle) = .ok (behind, some last) := by
    decide +kernel
  obtain ⟨⟨_, _, _, _, isFront, isBehind, -, -, sql, both, -, -, tied⟩, -⟩ :=
    buildCriteria_append (forDialect .generic) left right {}
  obtain ⟨rfl, same⟩ := Prod.mk.inj (Except.ok.inj (builtLeft.symm.trans isFront))
  obtain rfl := Option.some.inj same
  obtain ⟨rfl, same⟩ := Prod.mk.inj (Except.ok.inj (builtRight.symm.trans isBehind))
  obtain rfl := Option.some.inj same
  have text := tied [.raw ""] (.predicate ⟨"b", .compare .lt (.bind (.int 2)), .or⟩)
    [.raw "and z = 1"] rfl (by simp [Entry.IsBlank]) id (by decide)
  exact ⟨builtLeft, builtRight, both.trans (by rw [text]; decide +kernel)⟩

end Compiler

end SqlCompiler
