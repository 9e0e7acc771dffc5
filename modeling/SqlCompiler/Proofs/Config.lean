import SqlCompiler.Config
import SqlCompiler.Proofs.Binder.Numbering
import SqlCompiler.Proofs.Json.Strings

/-! Placeholder prefixes. A prefix is taken or refused alike wherever it is given: by a binder, a
configuration, a query of a configuration, or a configuration in JSON. A configuration is read back
from its own text, unless its prefix is refused.
-/

namespace SqlCompiler

-----------------------------------------------------------------------------------------
-- Prefixes
-----------------------------------------------------------------------------------------

/-- A text of letters, digits and underscores of ASCII, and of one of them at least. -/
def IsPlaceholderWord (text : String) : Prop :=
  text ≠ ""
  ∧ ∀ c ∈ text.toList,
      'A' ≤ c ∧ c ≤ 'Z' ∨ 'a' ≤ c ∧ c ≤ 'z' ∨ '0' ≤ c ∧ c ≤ '9' ∨ c = '_'

theorem isPlaceholderPrefix_iff_isPlaceholderWord {text : String}
    : isPlaceholderPrefix text = true ↔ IsPlaceholderWord text := by
  have alphanumeric (c : Char)
      : c.isAlphanum = true
        ↔ 'A' ≤ c ∧ c ≤ 'Z' ∨ 'a' ≤ c ∧ c ≤ 'z' ∨ '0' ≤ c ∧ c ≤ '9' := by
    delta Char.isAlphanum Char.isAlpha Char.isUpper Char.isLower Char.isDigit
    simp [Char.le_def, or_assoc]
  simp only [Binder.isPlaceholderPrefix_iff, IsPlaceholderWord, alphanumeric, or_assoc]

theorem checkPlaceholderPrefix_of_isPlaceholderWord {text : String}
    (isWord : IsPlaceholderWord text)
    : checkPlaceholderPrefix text = .ok () :=
  if_pos (isPlaceholderPrefix_iff_isPlaceholderWord.mpr isWord)

theorem checkPlaceholderPrefix_of_not_isPlaceholderWord {text : String}
    (noWord : ¬ IsPlaceholderWord text)
    : checkPlaceholderPrefix text = .error (.invalidPlaceholderPrefix text) :=
  if_neg (mt isPlaceholderPrefix_iff_isPlaceholderWord.mp noWord)

-----------------------------------------------------------------------------------------
-- Configurations in JSON
-----------------------------------------------------------------------------------------

/-- The dialect that is written by its name is read again. -/
theorem Dialect.ofName_name (dialect : Dialect) : ofName dialect.name = dialect := by
  cases dialect <;> decide

namespace Config

/-- The text is that of a configuration with a prefix. Its dialect has a name there, if it is not
left out.
-/
def IsWritten (text : String) (config : Config) : Prop :=
  ∃ tree fields,
    Json.Tree.ofText? text = some tree
    ∧ tree.record? fieldNames false = some fields
    ∧ fields.lookup "placeholder_prefix" = some (.string (some config.placeholderPrefix))
    ∧ (fields.lookup "dialect" = none ∧ config.dialect = .generic
      ∨ ∃ name,
          fields.lookup "dialect" = some (.string (some name))
          ∧ config.dialect = .ofName name)

theorem IsWritten.ofText {text : String} {config : Config} (h : IsWritten text config)
    : ofText text = config.checked := by
  obtain ⟨tree, fields, isTree, isRecord, isPrefix, isDialect⟩ := h
  have read : ofTree? tree = some config := by
    rw [ofTree?, isRecord]
    rcases isDialect with ⟨missing, generic⟩ | ⟨name, named, same⟩
    · simp [Json.optional?, isPrefix, missing, Json.Tree.string?, ← generic]
    · simp [Json.optional?, isPrefix, named, Json.Tree.string?, ← same]
  rw [Config.ofText, isTree, Option.bind_some, read]

/-- The text that is written for a configuration is that of the configuration. -/
theorem isWritten_compact (config : Config) : IsWritten config.toJson.compact config := by
  let texts := [("dialect", config.dialect.name), ("placeholder_prefix", config.placeholderPrefix)]
  refine ⟨.ofTexts texts, texts.map fun member => (member.1, .string (some member.2)),
    Json.Tree.ofText?_compact_ofTexts texts, ?_, ?_, .inr ⟨config.dialect.name, ?_, ?_⟩⟩
  · simp [texts, Json.Tree.ofTexts, Json.Tree.record?, fieldNames, Json.hasDistinctKeys]
  · rfl
  · rfl
  · exact (Dialect.ofName_name _).symm

/-- A prefix is taken everywhere or nowhere: the check of the prefix alone decides about a binder, a
configuration, a query of it, and the configuration in any text, also in the text that is written
for it. What is refused is refused with one error, which names the prefix.
-/
theorem placeholderPrefix_rule (text : String)
    : let refused : CompileError := .invalidPlaceholderPrefix text
      refused.message
        = "invalid configuration: placeholder prefix '" ++ text
          ++ "' must be non-empty and use [A-Za-z0-9_]"
      ∧ ∃ verdict : Except CompileError Unit,
          (IsPlaceholderWord text → verdict = .ok ())
          ∧ (¬ IsPlaceholderWord text → verdict = .error refused)
          ∧ Binder.withPrefix text = verdict.map (fun _ => { placeholderPrefix := text })
          ∧ ∀ dialect : Dialect,
              let config : Config := { dialect, placeholderPrefix := text }
              config.checked = verdict.map (fun _ => config)
              ∧ config.newQuery
                = verdict.map (fun _ => Query.withBinder { placeholderPrefix := text })
              ∧ (∀ json, IsWritten json config → ofText json = verdict.map (fun _ => config))
              ∧ ofText config.toJson.compact = verdict.map (fun _ => config) := by
  have withPrefix
      : Binder.withPrefix text
        = (checkPlaceholderPrefix text).map (fun _ => { placeholderPrefix := text }) := by
    rw [Binder.withPrefix]
    cases checkPlaceholderPrefix text <;> rfl
  refine ⟨rfl, checkPlaceholderPrefix text, ?accepts, ?refuses, withPrefix, fun dialect => ?_⟩
  case accepts => exact checkPlaceholderPrefix_of_isPlaceholderWord
  case refuses => exact checkPlaceholderPrefix_of_not_isPlaceholderWord
  intro config
  have checked : config.checked = (checkPlaceholderPrefix text).map (fun _ => config) := by
    rw [Config.checked]
    cases checkPlaceholderPrefix text <;> rfl
  refine ⟨checked, ?_, fun json isWritten => isWritten.ofText.trans checked,
    (isWritten_compact config).ofText.trans checked⟩
  rw [newQuery, withPrefix]
  cases checkPlaceholderPrefix text <;> rfl

end Config

end SqlCompiler
