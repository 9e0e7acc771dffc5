import SqlCompiler.Json.Token
import SqlCompiler.Proofs.Sql.Lexeme
import SqlCompiler.Proofs.Text.Numeral
import SqlCompiler.Value.Literal

/-! Reading literals. The quotes of a literal tell where it ends, whatever they enclose, and outside
of them a literal has neither blanks nor commas. Every literal but that of a float is read back as
the value it was written for.
-/

namespace SqlCompiler

open Sql Text

/-- The text that lexemes are, if there are no delimited ones among them. -/
def Sql.chars? : List Lexeme → Option (List Char)
  | [] => some []
  | .char c :: rest => (chars? rest).map (c :: ·)
  | .name _ :: _ => none

theorem Sql.chars?_map (text : List Char) : chars? (text.map .char) = some text := by
  induction text with
  | nil => rfl
  | cons c text ih => simp [chars?, ih]

namespace SqlValue

-----------------------------------------------------------------------------------------
-- A reader of literals
-----------------------------------------------------------------------------------------

/-- The bytes that are written as hexadecimal digits, two for each. -/
def bytes? : List Char → Option (List UInt8)
  | [] => some []
  | [_] => none
  | high :: low :: rest => do
      let byte := 16 * (← Json.Lexer.hexValue? high) + (← Json.Lexer.hexValue? low)
      return .ofNat byte :: (← bytes? rest)

/-- The value of a literal without quotes. -/
def ofWord? (word : List Char) : Option SqlValue :=
  if word = "NULL".toList then some .null
  else if word = "TRUE".toList then some (.bool true)
  else if word = "FALSE".toList then some (.bool false)
  else (integer? word).map fun n => .int (.ofInt n)

/-- The value of a literal, as a reader sees it for whom the quotes of literals delimit. -/
def ofLexemes? : List Lexeme → Option SqlValue
  | [.name content] => some (.text (String.ofList content))
  | [.char 'X', .name digits] => (bytes? digits).map .blob
  | lexemes => (chars? lexemes).bind ofWord?

-----------------------------------------------------------------------------------------
-- What is read of a literal
-----------------------------------------------------------------------------------------

/-- The hexadecimal digits of some bytes. -/
def hexDigits (bytes : List UInt8) : List Char :=
  bytes.flatMap fun byte => [hexDigit (byte.toNat / 16), hexDigit (byte.toNat % 16)]

/-- What a reader sees of a literal. -/
def lexemes : SqlValue → List Lexeme
  | .text s => [.name s.toList]
  | .blob bytes => [.char 'X', .name (hexDigits bytes)]
  | value => value.literal.toList.map .char

theorem hexValue?_hexDigit : ∀ n < 16, Json.Lexer.hexValue? (hexDigit n) = some n := by
  decide

theorem hexDigit_ne_literalQuote : ∀ n < 16, hexDigit n ≠ literalQuote := by
  decide

theorem nibbles_lt (byte : UInt8) : byte.toNat / 16 < 16 ∧ byte.toNat % 16 < 16 := by
  have := byte.toNat_lt
  omega

/-- Two digits give their byte back, by induction on the bytes. -/
theorem bytes?_hexDigits (bytes : List UInt8) : bytes? (hexDigits bytes) = some bytes := by
  unfold hexDigits
  induction bytes with
  | nil => rfl
  | cons byte bytes ih =>
      obtain ⟨high, low⟩ := nibbles_lt byte
      have whole : UInt8.ofNat (16 * (byte.toNat / 16) + byte.toNat % 16) = byte := by
        rw [Nat.div_add_mod, UInt8.ofNat_toNat]
      simp only [List.flatMap_cons, List.cons_append, List.nil_append, bytes?,
        hexValue?_hexDigit _ high, hexValue?_hexDigit _ low, ih]
      exact congrArg (fun byte => some (byte :: bytes)) whole

theorem ofWord?_toString (n : Int64) : ofWord? (toString n.toInt).toList = some (.int n) := by
  have read := integer?_toString n.toInt
  have differs {word : List Char} (noInteger : integer? word = none)
      : (toString n.toInt).toList ≠ word := by
    rintro rfl
    cases noInteger.symm.trans read
  rw [ofWord?, if_neg (differs (by decide)), if_neg (differs (by decide)),
    if_neg (differs (by decide)), read, Option.map_some, Int64.ofInt_toInt]

/-- A literal of characters alone is read as the word that they are. -/
theorem ofLexemes?_map (word : List Char)
    : ofLexemes? (word.map .char) = ofWord? word := by
  rw [ofLexemes?, chars?_map, Option.bind_some]
  · intro content same
    cases word <;> cases same
  · intro digits same
    rcases word with _ | ⟨_, _ | ⟨_, _⟩⟩ <;> cases same

/-- The literal of a value is read back as the value, unless that is a float. -/
theorem ofLexemes?_lexemes {value : SqlValue} (noFloat : ∀ x, value ≠ .float x)
    : ofLexemes? value.lexemes = some value := by
  cases value with
  | null => decide
  | bool b => cases b <;> decide
  | int n => exact (ofLexemes?_map _).trans (ofWord?_toString n)
  | float x => exact absurd rfl (noFloat x)
  | text s => rw [lexemes, ofLexemes?, String.ofList_toList]
  | blob bytes => rw [lexemes, ofLexemes?, bytes?_hexDigits, Option.map_some]

-----------------------------------------------------------------------------------------
-- Literals in a text
-----------------------------------------------------------------------------------------

theorem literalQuote_notMem_hexDigits (bytes : List UInt8) : literalQuote ∉ hexDigits bytes := by
  intro member
  obtain ⟨byte, -, member⟩ := List.mem_flatMap.mp member
  obtain ⟨high, low⟩ := nibbles_lt byte
  simp only [List.mem_cons, List.not_mem_nil, or_false] at member
  rcases member with same | same
  · exact hexDigit_ne_literalQuote _ high same.symm
  · exact hexDigit_ne_literalQuote _ low same.symm

/-- The digits of a blob stand between quotes as they are, since there is no quote among them. -/
theorem literal_blob (bytes : List UInt8)
    : (blob bytes).literal.toList = 'X' :: delimit literalQuote (hexDigits bytes) := by
  have single : double literalQuote (hexDigits bytes) = hexDigits bytes :=
    double_of_notMem (literalQuote_notMem_hexDigits bytes)
  rw [delimit, single, literal, blobLiteral, String.toList_ofList, hexDigits]

/-- There are neither quotes nor gaps in the literal of an integer. -/
theorem plain_of_mem_literal_int (n : Int64) {c : Char} (member : c ∈ (int n).literal.toList)
    : c ≠ literalQuote ∧ isGap c = false := by
  rcases isDigit_of_mem_toString member with rfl | isDigit
  · decide
  · refine ⟨?_, ?_⟩
    · rintro rfl
      cases isDigit
    · simp only [isGap, Bool.or_eq_false_iff, decide_eq_false_iff_not]
      constructor <;> (rintro rfl; cases isDigit)

/-- A literal is read where it stands, up to the quote that closes it or to its last character. -/
theorem lexemesFrom_literal {value : SqlValue} (noFloat : ∀ x, value ≠ .float x)
    {after : List Char} (apart : after.head? ≠ some literalQuote)
    : lexemesFrom literalQuote .outside (value.literal.toList ++ after)
      = (lexemesFrom literalQuote .outside after).map (value.lexemes ++ ·) := by
  cases value with
  | null => exact lexemesFrom_plain (by decide) after
  | bool b => cases b <;> exact lexemesFrom_plain (by decide) after
  | int n => exact lexemesFrom_plain (fun member => (plain_of_mem_literal_int n member).1 rfl) after
  | float x => exact absurd rfl (noFloat x)
  | text s =>
      rw [literal, String.toList_ofList]
      exact lexemesFrom_delimit apart s.toList
  | blob bytes =>
      have differs : 'X' ≠ literalQuote := by decide
      rw [literal_blob, List.cons_append, lexemesFrom, if_neg differs, lexemesFrom_delimit apart,
        Option.map_map]
      rfl

/-- Outside of its quotes no literal has a gap. -/
theorem isGap_of_mem_lexemes {value : SqlValue} (noFloat : ∀ x, value ≠ .float x) {c : Char}
    (member : .char c ∈ value.lexemes)
    : isGap c = false := by
  have inWord {word : List Char} (listed : .char c ∈ word.map Lexeme.char) : c ∈ word := by
    simpa using listed
  have ofWord {word : List Char} (gapless : word.all (!isGap ·)) (listed : c ∈ word)
      : isGap c = false := by
    simpa using List.all_eq_true.mp gapless c listed
  cases value with
  | null => exact ofWord (by decide) (inWord member)
  | bool b => cases b <;> exact ofWord (by decide) (inWord member)
  | int n => exact (plain_of_mem_literal_int n (inWord member)).2
  | float x => exact absurd rfl (noFloat x)
  | text s => simp [lexemes] at member
  | blob bytes =>
      obtain rfl : c = 'X' := by simpa [lexemes] using member
      decide

end SqlValue

end SqlCompiler
