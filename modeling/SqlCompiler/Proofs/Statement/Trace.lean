import SqlCompiler.Proofs.Statement.Reading
import SqlCompiler.Proofs.Value.Literal

/-! Bindings in the log. A compiled statement is logged with one text for all its bindings, in which
the values stand as literals. The text is read back as the bindings, so no value can make it look
like that of other bindings.
-/

namespace SqlCompiler

open Sql SqlValue Text

-----------------------------------------------------------------------------------------
-- A reader of bindings
-----------------------------------------------------------------------------------------

/-- The binding that lexemes are: a placeholder up to the first equals sign, and a literal. -/
def binding? (lexemes : List Lexeme) : Option Binding :=
  match lexemes.dropWhile (· ≠ .char '=') with
  | [] => none
  | _ :: literal => do
      let placeholder ← chars? (lexemes.takeWhile (· ≠ .char '='))
      return { placeholder := String.ofList placeholder, value := ← ofLexemes? literal }

/-- The bindings that lexemes are. They stand between commas; blanks do not matter. -/
def bindingsOfLexemes? : List Lexeme → Option (List Binding)
  | [] => some []
  | lexemes => ((lexemes.filter (· ≠ .char ' ')).splitOn (.char ',')).mapM binding?

/-- The bindings in a text. Commas, blanks and equals signs between the quotes of a literal belong
to the literal.
-/
def bindings? (text : String) : Option (List Binding) :=
  (lexemes? literalQuote text).bind bindingsOfLexemes?

-----------------------------------------------------------------------------------------
-- One binding
-----------------------------------------------------------------------------------------

namespace Binding

/-- What a reader sees of a binding. -/
def lexemes (binding : Binding) : List Lexeme :=
  binding.placeholder.toList.map .char ++ .char '=' :: binding.value.lexemes

/-- A binding that is read back: its placeholder is of colons and words, its value no float. -/
structure IsPlain (binding : Binding) : Prop where
  placeholder : ∀ c ∈ binding.placeholder.toList, c = ':' ∨ isPlaceholderChar c = true
  noFloat : ∀ x, binding.value ≠ .float x

theorem IsPlain.notMem_placeholder {binding : Binding} (h : binding.IsPlain) {c : Char}
    (mark : c ≠ ':' ∧ isPlaceholderChar c = false)
    : c ∉ binding.placeholder.toList := by
  intro member
  rcases h.placeholder c member with colon | inWord
  · exact mark.1 colon
  · cases mark.2.symm.trans inWord

/-- A binding is read where it stands. -/
theorem IsPlain.lexemesFrom_summary {binding : Binding} (h : binding.IsPlain) {after : List Char}
    (apart : after.head? ≠ some literalQuote)
    : lexemesFrom literalQuote .outside (binding.summary.toList ++ after)
      = (lexemesFrom literalQuote .outside after).map (binding.lexemes ++ ·) := by
  have plain : literalQuote ∉ binding.placeholder.toList ++ ['='] :=
    List.not_mem_append (h.notMem_placeholder (by decide)) (by decide)
  have parts
      : binding.summary.toList ++ after
        = (binding.placeholder.toList ++ ['=']) ++ (binding.value.literal.toList ++ after) := by
    simp [summary]
  rw [parts, lexemesFrom_plain plain, lexemesFrom_literal h.noFloat apart, Option.map_map]
  congr 1
  funext rest
  simp [lexemes]

/-- No gap of a binding is outside of its literal. -/
theorem IsPlain.gap_notMem {binding : Binding} (h : binding.IsPlain) {gap : Char}
    (isGap : isGap gap = true)
    : .char gap ∉ binding.lexemes := by
  have mark : gap ≠ ':' ∧ gap ≠ '=' ∧ isPlaceholderChar gap = false := by
    have cases : gap = ' ' ∨ gap = ',' := by simpa [Sql.isGap] using isGap
    rcases cases with rfl | rfl <;> decide
  intro member
  rcases List.mem_append.mp member with inPlaceholder | behind
  · exact h.notMem_placeholder ⟨mark.1, mark.2.2⟩ (by simpa using inPlaceholder)
  · rcases List.mem_cons.mp behind with equals | inLiteral
    · exact mark.2.1 (Lexeme.char.inj equals)
    · cases isGap.symm.trans (isGap_of_mem_lexemes h.noFloat inLiteral)

theorem IsPlain.filter_lexemes {binding : Binding} (h : binding.IsPlain)
    : binding.lexemes.filter (· ≠ .char ' ') = binding.lexemes := by
  refine List.filter_eq_self.mpr fun lexeme member => ?_
  have differs : lexeme ≠ .char ' ' := fun blank => h.gap_notMem (by decide) (blank ▸ member)
  simpa using differs

/-- A binding is read back from its lexemes: the first equals sign is the one behind the
placeholder.
-/
theorem IsPlain.binding?_lexemes {binding : Binding} (h : binding.IsPlain)
    : binding? binding.lexemes = some binding := by
  have noEquals
      : ∀ lexeme ∈ binding.placeholder.toList.map Lexeme.char,
          decide (lexeme ≠ .char '=') = true := by
    intro lexeme member
    obtain ⟨c, listed, rfl⟩ := List.mem_map.mp member
    have differs : c ≠ '=' := fun same => h.notMem_placeholder (by decide) (same ▸ listed)
    simpa using differs
  rw [binding?, lexemes, List.dropWhile_append_of_pos noEquals,
    List.takeWhile_append_of_pos noEquals]
  simp [chars?_map, ofLexemes?_lexemes h.noFloat]

end Binding

-----------------------------------------------------------------------------------------
-- Bindings in a row
-----------------------------------------------------------------------------------------

/-- Bindings are read one by one, by induction on them: a comma is behind each but the last. -/
theorem lexemes?_summaries {bindings : List Binding}
    (plain : ∀ binding ∈ bindings, binding.IsPlain)
    : lexemes? literalQuote (String.intercalate ", " (bindings.map Binding.summary))
      = some ([.char ',', .char ' '].intercalate (bindings.map Binding.lexemes)) := by
  rw [lexemes?, String.toList_intercalate]
  induction bindings with
  | nil => rfl
  | cons first rest ih =>
      obtain ⟨plainFirst, plainRest⟩ := List.forall_mem_cons.mp plain
      cases rest with
      | nil =>
          have none : ([] : List Char).head? ≠ some literalQuote := by simp
          simpa [lexemesFrom] using plainFirst.lexemesFrom_summary none
      | cons next rest =>
          have gap : literalQuote ∉ ", ".toList := by decide
          simp only [List.map_cons, List.intercalate_cons_cons, List.append_assoc] at ih ⊢
          rw [plainFirst.lexemesFrom_summary (by simp [literalQuote]), lexemesFrom_plain gap,
            ih plainRest]
          rfl

/-- The blanks behind the commas are the only ones. -/
theorem filter_intercalate_lexemes {bindings : List Binding}
    (plain : ∀ binding ∈ bindings, binding.IsPlain)
    : ([.char ',', .char ' '].intercalate (bindings.map Binding.lexemes)).filter (· ≠ .char ' ')
      = [.char ','].intercalate (bindings.map Binding.lexemes) := by
  have noBlank
      : (bindings.map Binding.lexemes).map (List.filter (· ≠ .char ' '))
        = bindings.map Binding.lexemes := by
    rw [List.map_map]
    exact List.map_congr_left fun binding listed => (plain binding listed).filter_lexemes
  rw [filter_intercalate, noBlank]
  rfl

theorem mapM_binding?_lexemes {bindings : List Binding}
    (plain : ∀ binding ∈ bindings, binding.IsPlain)
    : (bindings.map Binding.lexemes).mapM binding? = some bindings := by
  induction bindings with
  | nil => rfl
  | cons first rest ih =>
      obtain ⟨plainFirst, plainRest⟩ := List.forall_mem_cons.mp plain
      rw [List.map_cons, List.mapM_cons, plainFirst.binding?_lexemes, ih plainRest]
      rfl

/-- Plain bindings are read back from the text that joins them: outside of literals, commas are
between bindings only.
-/
theorem bindings?_summaries {bindings : List Binding}
    (plain : ∀ binding ∈ bindings, binding.IsPlain)
    : bindings? (String.intercalate ", " (bindings.map Binding.summary)) = some bindings := by
  rw [bindings?, lexemes?_summaries plain, Option.bind_some]
  cases bindings with
  | nil => rfl
  | cons first rest =>
      have noComma : ∀ lexemes ∈ (first :: rest).map Binding.lexemes, .char ',' ∉ lexemes :=
        List.forall_mem_map.mpr fun binding listed => (plain binding listed).gap_notMem (by decide)
      rw [bindingsOfLexemes?, filter_intercalate_lexemes plain,
        List.splitOn_intercalate _ noComma (by simp)]
      · exact mapM_binding?_lexemes plain
      · intro empty
        have equals : .char '=' ∈ first.lexemes := by simp [Binding.lexemes]
        have member
            : .char '='
              ∈ [.char ',', .char ' '].intercalate ((first :: rest).map Binding.lexemes) :=
          mem_intercalate_of_mem List.mem_cons_self equals
        exact absurd (empty ▸ member) List.not_mem_nil

-----------------------------------------------------------------------------------------
-- The bindings of a statement
-----------------------------------------------------------------------------------------

/-- The bindings that a binder makes are plain, unless their values are floats. -/
theorem Binder.isPlain_of_mem_numbered {placeholderPrefix : String}
    (valid : isPlaceholderPrefix placeholderPrefix = true) {number : Nat} {values : List SqlValue}
    {binding : Binding} (listed : binding ∈ numbered placeholderPrefix number values)
    (noFloat : ∀ x, binding.value ≠ .float x)
    : binding.IsPlain := by
  refine ⟨?_, noFloat⟩
  have placed
      : binding.placeholder ∈ (numbered placeholderPrefix number values).map (·.placeholder) :=
    List.mem_map_of_mem listed
  rw [map_placeholder_numbered] at placed
  obtain ⟨n, -, same⟩ := List.mem_map.mp placed
  obtain ⟨word, chars, -, isWord⟩ := exists_word valid n
  intro c member
  rw [← same, chars] at member
  exact (List.mem_cons.mp member).imp_right (isWord c)

namespace Compiler

theorem compile_labels {compiler : Compiler} {kind : StatementKind} {query after : Query}
    {compiled : Compiled} (ok : compiler.compile kind query = (.ok compiled, after))
    : compiled.kind = kind ∧ compiled.dialect = compiler.dialect := by
  rw [compile_eq] at ok
  cases templateOk : compiler.template kind query with
  | error error => simp [templateOk] at ok
  | ok template =>
      simp only [templateOk, Prod.mk.injEq, Except.ok.injEq] at ok
      obtain ⟨rfl, -⟩ := ok
      exact ⟨rfl, rfl⟩

/-- The log of a compiled statement has all its bindings, unless one of them is a float. -/
theorem bindings?_bindingSummary {dialect : Dialect} {kind : StatementKind} {query : Query}
    {compiled : Compiled}
    (valid : isPlaceholderPrefix query.binder.placeholderPrefix = true)
    (ok : ((forDialect dialect).compile kind query).1 = .ok compiled)
    (noFloat : ∀ binding ∈ compiled.bound, ∀ x, binding.value ≠ .float x)
    : bindings? compiled.bindingSummary = some compiled.bound := by
  obtain ⟨template, -, -, bound, -⟩ := compile_ok (Prod.ext ok rfl)
  refine bindings?_summaries fun binding listed => ?_
  exact Binder.isPlain_of_mem_numbered valid (bound ▸ listed) (noFloat binding listed)

/-- The bindings that compiling adds to a binder are read back from the text that the log has for
them, whatever quotes, commas or further bindings their values seem to hold; only floats are not.
Two statements with the same text thus have the same bindings, even if they are of different
dialects and their placeholders of different prefixes.
-/
theorem compile_traces {dialect : Dialect} {kind : StatementKind} {query after : Query}
    {compiled : Compiled}
    (valid : isPlaceholderPrefix query.binder.placeholderPrefix = true)
    (ok : (forDialect dialect).compile kind query = (.ok compiled, after))
    (noFloat : ∀ binding ∈ compiled.bound, ∀ x, binding.value ≠ .float x)
    : ∃ (added : List Binding) (text : String),
        after.binder.bindings = query.binder.bindings ++ added
        ∧ compiled.events
          = [.statementCompiled kind dialect added,
              { level := .trace
                message := "compiled sql"
                fields := [("sql", compiled.sql), ("bindings", text)] }]
        ∧ text
          = String.intercalate ", "
              (added.map fun binding => binding.placeholder ++ "=" ++ binding.value.literal)
        ∧ bindings? text = some added
        ∧ ∀ (other : Compiled) (otherQuery : Query),
            isPlaceholderPrefix otherQuery.binder.placeholderPrefix = true
            → ((forDialect other.dialect).compile other.kind otherQuery).1 = .ok other
            → (∀ binding ∈ other.bound, ∀ x, binding.value ≠ .float x)
            → other.bindingSummary = text
            → other.bound = added := by
  have read : bindings? compiled.bindingSummary = some compiled.bound :=
    bindings?_bindingSummary valid (congrArg Prod.fst ok) noFloat
  have bindings := compile_bindings (forDialect dialect) kind query
  rw [ok] at bindings
  refine ⟨compiled.bound, compiled.bindingSummary, bindings, ?events, rfl, read, ?others⟩
  case events =>
    have labels := compile_labels ok
    rw [Compiled.events, labels.1, labels.2]
    rfl
  case others =>
    intro other otherQuery otherValid otherOk otherNoFloat same
    have otherRead := bindings?_bindingSummary otherValid otherOk otherNoFloat
    exact Option.some.inj (otherRead.symm.trans (same ▸ read))

/-- Text that is written like bindings, quotes and all, is told from bindings. -/
theorem compile_traces_forged
    : let query : Query :=
        { table := "t"
          criteria :=
            ⟨[.predicate
                ⟨"c",
                  .isIn
                    [.bind (.text "x', :p2='y"), .bind .null, .bind (.bool true),
                      .bind (.int (-12)), .bind (.blob [0, 10, 255]), .bind (.text "=, X'0A'")],
                  .and⟩]⟩
          binder := { placeholderPrefix := "p" } }
      let compiled : Compiled :=
        { kind := .delete
          dialect := .generic
          sql := "DELETE FROM \"t\" WHERE \"c\" IN ( :p1, :p2, :p3, :p4, :p5, :p6 )"
          bound :=
            [⟨":p1", .text "x', :p2='y"⟩, ⟨":p2", .null⟩, ⟨":p3", .bool true⟩,
              ⟨":p4", .int (-12)⟩, ⟨":p5", .blob [0, 10, 255]⟩, ⟨":p6", .text "=, X'0A'"⟩] }
      isPlaceholderPrefix query.binder.placeholderPrefix = true
      ∧ ((forDialect .generic).compile .delete query).1 = .ok compiled
      ∧ (∀ binding ∈ compiled.bound, ∀ x, binding.value ≠ .float x)
      ∧ bindings?
          ":p1='x'', :p2=''y', :p2=NULL, :p3=TRUE, :p4=-12, :p5=X'000AFF', :p6='=, X''0A'''"
        = some compiled.bound := by
  intro query compiled
  have valid : isPlaceholderPrefix query.binder.placeholderPrefix = true := by decide
  have ok : ((forDialect .generic).compile .delete query).1 = .ok compiled := by
    decide +kernel
  have noFloat : ∀ binding ∈ compiled.bound, ∀ x, binding.value ≠ .float x := by
    simp [compiled]
  have compiles
      : (forDialect .generic).compile .delete query
        = (.ok compiled, ((forDialect .generic).compile .delete query).2) :=
    Prod.ext ok rfl
  have bindings
      : ((forDialect .generic).compile .delete query).2.binder.bindings = compiled.bound := by
    decide +kernel
  obtain ⟨added, text, grown, -, joined, read, -⟩ := compile_traces valid compiles noFloat
  obtain rfl : compiled.bound = added := bindings.symm.trans grown
  have written
      : text
        = ":p1='x'', :p2=''y', :p2=NULL, :p3=TRUE, :p4=-12, :p5=X'000AFF', :p6='=, X''0A'''" :=
    joined.trans (by decide +kernel)
  exact ⟨valid, ok, noFloat, written ▸ read⟩

end Compiler

end SqlCompiler
