import SqlCompiler.Json.Printer
import SqlCompiler.Json.Tree

/-! Strings in JSON. Every string is read back from its text, whatever has to be escaped in it, and
so is an object whose members are strings.
-/

namespace SqlCompiler.Json

-----------------------------------------------------------------------------------------
-- Characters
-----------------------------------------------------------------------------------------

namespace Lexer

/-- Inside a string of which some characters have been read, the latest first. -/
def inString (tokens : List Token) (read : List Char) : Lexer :=
  { tokens, mode := .string { text := some read } }

theorem hexValue?_digitChar : ∀ n < 16, hexValue? (Nat.digitChar n) = some n := by
  decide

/-- The code unit of a control character is that of no surrogate, so it is the character. -/
theorem foldlM_codeEscape (tokens : List Token) (read : List Char) {c : Char} (control : c < ' ')
    : (codeEscape c).foldlM step (inString tokens read) = some (inString tokens (c :: read)) := by
  have small : c.toNat < 32 := control
  have high : c.toNat / 16 < 16 := by omega
  have low : c.toNat % 16 < 16 := by omega
  have code : 16 * (c.toNat / 16) + c.toNat % 16 = c.toNat := Nat.div_add_mod _ _
  have noLead : ¬ 0xD800 ≤ c.toNat := by omega
  have noTrail : ¬ 0xDC00 ≤ c.toNat := by omega
  have opened
      : "\\u00".toList.foldlM step (inString tokens read)
        = some { tokens, mode := .code { text := some read } 2 0 } := rfl
  rw [codeEscape, List.foldlM_append, opened]
  simp [inString, step, codeStep, hexValue?_digitChar _ high, hexValue?_digitChar _ low, code,
    PartialString.pushCode, PartialString.push, noLead, noTrail, Char.ofNat_toNat]

/-- However a character is escaped in a string, it is read as itself. -/
theorem foldlM_escapeChar (tokens : List Token) (read : List Char) (c : Char)
    : (escapeChar c).foldlM step (inString tokens read) = some (inString tokens (c :: read)) := by
  unfold escapeChar
  split
  case h_8 notQuote notBackslash _ _ _ _ _ =>
    split
    case isTrue control => exact foldlM_codeEscape tokens read control
    case isFalse plain =>
      have pushed
          : stringStep tokens { text := some read } c = some (inString tokens (c :: read)) := by
        rw [stringStep, if_neg notQuote, if_neg notBackslash, if_neg plain]
        rfl
      simp [inString, step, pushed]
  all_goals rfl

/-- A string is read character by character, by induction on them. -/
theorem foldlM_escaped (tokens : List Token) (read chars : List Char)
    : (chars.flatMap escapeChar).foldlM step (inString tokens read)
      = some (inString tokens (chars.reverse ++ read)) := by
  induction chars generalizing read with
  | nil => rfl
  | cons c chars ih =>
      rw [List.flatMap_cons, List.foldlM_append, foldlM_escapeChar, Option.bind_eq_bind,
        Option.bind_some, ih, List.reverse_cons, List.append_assoc, List.singleton_append]

-----------------------------------------------------------------------------------------
-- Texts with whole tokens
-----------------------------------------------------------------------------------------

/-- The text is read as tokens, wherever it stands between others. -/
def Reads (text : List Char) (read : List Token) : Prop :=
  ∀ tokens, text.foldlM step { tokens } = some { tokens := read.reverse ++ tokens }

theorem Reads.append {front back : List Char} {left right : List Token} (first : Reads front left)
    (second : Reads back right)
    : Reads (front ++ back) (left ++ right) := by
  intro tokens
  rw [List.foldlM_append, first tokens, Option.bind_eq_bind, Option.bind_some, second,
    List.reverse_append, List.append_assoc]

theorem reads_quoted (s : String) : Reads (quoted s).toList [.string (some s)] := by
  intro tokens
  have opened : step { tokens } '"' = some (inString tokens []) := rfl
  rw [quoted, String.toList_ofList, List.foldlM_cons, opened, Option.bind_eq_bind,
    Option.bind_some, List.foldlM_append, foldlM_escaped, Option.bind_eq_bind, Option.bind_some]
  simp [inString, step, stringStep, emit, PartialString.finish]

/-- Texts between separators are read one by one, by induction on the texts. -/
theorem Reads.intercalate {separator : List Char} {between : List Token}
    (separates : Reads separator between) {α : Type} {text : α → List Char} {read : α → List Token}
    (each : ∀ a, Reads (text a) (read a)) (as : List α)
    : Reads (separator.intercalate (as.map text)) (between.intercalate (as.map read)) := by
  induction as with
  | nil => exact fun _ => rfl
  | cons first rest ih =>
      cases rest with
      | nil => simpa using each first
      | cons next rest =>
          simp only [List.map_cons, List.intercalate_cons_cons] at ih ⊢
          exact ((each first).append separates).append ih

theorem Reads.tokens? {text : List Char} {read : List Token} (h : Reads text read)
    : tokens? text = some read := by
  simp [Json.tokens?, h [], finish]

end Lexer

-----------------------------------------------------------------------------------------
-- Objects of strings
-----------------------------------------------------------------------------------------

/-- The object with strings as its members. -/
def ofTexts (members : List (String × String)) : Json :=
  .object (members.map fun (key, text) => (key, .string text))

/-- The tree of an object of strings. -/
def Tree.ofTexts (members : List (String × String)) : Tree :=
  .object (members.map fun (key, text) => (some key, .string (some text)))

/-- The tokens of a member that is a string. -/
def memberTokens (member : String × String) : List Token :=
  [.string (some member.1), .colon, .string (some member.2)]

theorem compactMembers_texts (members : List (String × String))
    : compactMembers (members.map fun (key, text) => (key, .string text))
      = members.map fun (key, text) => quoted key ++ ":" ++ quoted text := by
  induction members with
  | nil => rfl
  | cons member members ih => simp only [List.map_cons, compactMembers, compact, ih]

theorem reads_compact_ofTexts (members : List (String × String))
    : Lexer.Reads (ofTexts members).compact.toList
        ([.openObject] ++ [.comma].intercalate (members.map memberTokens) ++ [.closeObject]) := by
  have opening : Lexer.Reads "\x7b".toList [.openObject] := fun _ => rfl
  have closing : Lexer.Reads "\x7d".toList [.closeObject] := fun _ => rfl
  have colon : Lexer.Reads ":".toList [.colon] := fun _ => rfl
  have comma : Lexer.Reads ",".toList [.comma] := fun _ => rfl
  have member (member : String × String)
      : Lexer.Reads (quoted member.1 ++ ":" ++ quoted member.2).toList (memberTokens member) := by
    rw [String.toList_append, String.toList_append]
    exact ((Lexer.reads_quoted member.1).append colon).append (Lexer.reads_quoted member.2)
  have inner := Lexer.Reads.intercalate comma member members
  rw [ofTexts, compact, compactMembers_texts, String.toList_append, String.toList_append,
    String.toList_intercalate, List.map_map]
  exact (opening.append inner).append closing

/-- The members of an object are read one by one, by induction on those that are left. -/
theorem ReaderState.foldlM_members (frames : List Frame) (read : Tree.Members)
    (first : String × String) (rest : List (String × String))
    : ([.comma].intercalate ((first :: rest).map memberTokens)).foldlM step (nextKey frames read)
      = some
          (afterMember frames
            (((first :: rest).map fun (key, text) => (some key, .string (some text))).reverse
              ++ read)) := by
  induction rest generalizing first read with
  | nil => rfl
  | cons next rest ih =>
      have behindFirst
          : (memberTokens first ++ [Token.comma]).foldlM step (nextKey frames read)
            = some (nextKey frames ((some first.1, .string (some first.2)) :: read)) := rfl
      rw [List.map_cons, List.map_cons, List.intercalate_cons_cons, List.foldlM_append,
        behindFirst, Option.bind_eq_bind, Option.bind_some]
      simpa using ih _ next

/-- An object of strings is read back from its text. -/
theorem Tree.ofText?_compact_ofTexts (members : List (String × String))
    : Tree.ofText? (Json.ofTexts members).compact = some (Tree.ofTexts members) := by
  rw [ofText?, (reads_compact_ofTexts members).tokens?]
  cases members with
  | nil => rfl
  | cons first rest =>
      obtain ⟨tail, starts⟩
          : ∃ tail,
              [Token.comma].intercalate ((first :: rest).map memberTokens)
              = .string (some first.1) :: tail := by
        cases rest <;> exact ⟨_, rfl⟩
      have opened
          : ([Token.openObject] ++ [.comma].intercalate ((first :: rest).map memberTokens)).foldlM
              ReaderState.step (.value [])
            = ([Token.comma].intercalate ((first :: rest).map memberTokens)).foldlM
                ReaderState.step (.nextKey [] []) := by
        rw [starts]
        rfl
      rw [Option.bind_eq_bind, Option.bind_some, List.foldlM_append, opened,
        ReaderState.foldlM_members]
      simp [ReaderState.step, ReaderState.close, ReaderState.finish, ofTexts]

end SqlCompiler.Json
