import SqlCompiler.Json.Numeral

/-! Tokens of JSON, and the machine that cuts a text into them, one character at a time.
Numerals are kept as they are written. A string that has half of a surrogate pair in it is a
token, but one without a text.
-/

namespace SqlCompiler.Json

/-- A token of JSON. -/
inductive Token
  | openObject
  | closeObject
  | openArray
  | closeArray
  | colon
  | comma
  | null
  | bool (b : Bool)
  | number (numeral : Numeral)
  | string (text : Option String)
deriving DecidableEq, Repr

/-- A string as far as it has been read: its characters, the latest first, or `none` if half
of a surrogate pair stands alone in it; and a leading surrogate that waits for its partner.
-/
structure PartialString where
  text : Option (List Char) := some []
  lead : Option Nat := none
deriving DecidableEq, Repr

namespace PartialString

/-- Half of a surrogate pair stands alone. -/
def broken : PartialString := { text := none }

/-- Appends a character. -/
def push (s : PartialString) (c : Char) : PartialString :=
  if s.lead.isSome then broken else { text := s.text.map (c :: ·) }

/-- The character of a surrogate pair. -/
def pairChar (lead trail : Nat) : Char :=
  Char.ofNat (0x10000 + (lead - 0xD800) * 0x400 + (trail - 0xDC00))

/-- Appends a sixteen-bit code unit. -/
def pushCode (s : PartialString) (code : Nat) : PartialString :=
  let leads : Bool := 0xD800 ≤ code && code < 0xDC00
  let trails : Bool := 0xDC00 ≤ code && code < 0xE000
  match s.lead with
  | some lead => if trails then { text := s.text.map (pairChar lead code :: ·) } else broken
  | none =>
      if leads then { s with lead := some code }
      else if trails then broken
      else s.push (Char.ofNat code)

/-- The text, when the string ends here. -/
def finish (s : PartialString) : Option String :=
  if s.lead.isSome then none else s.text.map fun chars => String.ofList chars.reverse

end PartialString

/-- How far a numeral has been read. -/
inductive NumeralPhase
  | sign
  | zero
  | whole
  | point
  | fraction
  | exponentMark
  | exponentSign
  | exponent
deriving DecidableEq, Repr

namespace NumeralPhase

/-- The numeral may end here. -/
def isComplete : NumeralPhase → Bool
  | zero | whole | fraction | exponent => true
  | sign | point | exponentMark | exponentSign => false

/-- Reads what may follow the digits before the point. -/
def afterWhole (numeral : Numeral) (c : Char) : Option (NumeralPhase × Numeral) :=
  if c = '.' then some (point, numeral)
  else if c = 'e' || c = 'E' then some (exponentMark, numeral)
  else none

/-- Reads a digit of the exponent. -/
def exponentDigit (negative : Bool) (digits : List Char) (numeral : Numeral) (c : Char)
    : Option (NumeralPhase × Numeral) :=
  if c.isDigit then
    some (exponent, { numeral with exponent := some (negative, c :: digits) })
  else none

/-- Reads one more character of a numeral, whose digits are kept with the latest first. A
whole part has no zero in front of other digits.
-/
def next? (numeral : Numeral) (c : Char) : NumeralPhase → Option (NumeralPhase × Numeral)
  | sign =>
      if c = '0' then some (zero, { numeral with whole := [c] })
      else if c.isDigit then some (whole, { numeral with whole := [c] })
      else none
  | zero => afterWhole numeral c
  | whole =>
      if c.isDigit then some (whole, { numeral with whole := c :: numeral.whole })
      else afterWhole numeral c
  | point =>
      if c.isDigit then some (fraction, { numeral with fraction := [c] }) else none
  | fraction =>
      if c.isDigit then some (fraction, { numeral with fraction := c :: numeral.fraction })
      else if c = 'e' || c = 'E' then some (exponentMark, numeral)
      else none
  | exponentMark =>
      if c = '+' then some (exponentSign, { numeral with exponent := some (false, []) })
      else if c = '-' then some (exponentSign, { numeral with exponent := some (true, []) })
      else exponentDigit false [] numeral c
  | exponentSign | exponent =>
      match numeral.exponent with
      | some (negative, digits) => exponentDigit negative digits numeral c
      | none => none

end NumeralPhase

/-- The numeral with its digits in the order they are written in. -/
def Numeral.inOrder (numeral : Numeral) : Numeral where
  negative := numeral.negative
  whole := numeral.whole.reverse
  fraction := numeral.fraction.reverse
  exponent := numeral.exponent.map fun (negative, digits) => (negative, digits.reverse)

/-- What the lexer is in the middle of. -/
inductive LexerMode
  | between
  | word (rest : List Char) (token : Token)
  | numeral (phase : NumeralPhase) (numeral : Numeral)
  | string (s : PartialString)
  | escape (s : PartialString)
  | code (s : PartialString) (missing code : Nat)
deriving DecidableEq, Repr

/-- The tokens read so far, the latest first, and what is being read. -/
structure Lexer where
  tokens : List Token := []
  mode : LexerMode := .between
deriving DecidableEq, Repr

namespace Lexer

/-- The blanks of JSON. -/
def isBlank (c : Char) : Bool :=
  c = ' ' || c = '\n' || c = '\t' || c = '\r'

/-- Adds a token that is complete. -/
def emit (tokens : List Token) (token : Token) : Lexer :=
  { tokens := token :: tokens }

/-- Reads a character outside of all tokens. -/
def start (tokens : List Token) (c : Char) : Option Lexer :=
  if isBlank c then some { tokens }
  else
    match c with
    | '\x7b' => some (emit tokens .openObject)
    | '\x7d' => some (emit tokens .closeObject)
    | '[' => some (emit tokens .openArray)
    | ']' => some (emit tokens .closeArray)
    | ':' => some (emit tokens .colon)
    | ',' => some (emit tokens .comma)
    | '"' => some { tokens, mode := .string {} }
    | 'n' => some { tokens, mode := .word "ull".toList .null }
    | 't' => some { tokens, mode := .word "rue".toList (.bool true) }
    | 'f' => some { tokens, mode := .word "alse".toList (.bool false) }
    | '-' => some { tokens, mode := .numeral .sign { negative := true } }
    | _ =>
        (NumeralPhase.sign.next? {} c).map fun (phase, numeral) =>
          { tokens, mode := .numeral phase numeral }

/-- The character that an escape of two characters stands for. -/
def escaped? : Char → Option Char
  | '"' => some '"'
  | '\\' => some '\\'
  | '/' => some '/'
  | 'b' => some '\x08'
  | 'f' => some '\x0c'
  | 'n' => some '\n'
  | 'r' => some '\r'
  | 't' => some '\t'
  | _ => none

/-- The value of a hexadecimal digit. -/
def hexValue? (c : Char) : Option Nat :=
  if c.isDigit then some (c.toNat - '0'.toNat)
  else if 'a' ≤ c && c ≤ 'f' then some (c.toNat - 'a'.toNat + 10)
  else if 'A' ≤ c && c ≤ 'F' then some (c.toNat - 'A'.toNat + 10)
  else none

/-- Reads a character inside a string. -/
def stringStep (tokens : List Token) (s : PartialString) (c : Char) : Option Lexer :=
  if c = '"' then some (emit tokens (.string s.finish))
  else if c = '\\' then some { tokens, mode := .escape s }
  else if c < ' ' then none
  else some { tokens, mode := .string (s.push c) }

/-- Reads the character behind a backslash. -/
def escapeStep (tokens : List Token) (s : PartialString) (c : Char) : Option Lexer :=
  if c = 'u' then some { tokens, mode := .code s 4 0 }
  else (escaped? c).map fun c => { tokens, mode := .string (s.push c) }

/-- Reads one of the four digits of a code unit. -/
def codeStep (tokens : List Token) (s : PartialString) (missing code : Nat) (c : Char)
    : Option Lexer :=
  (hexValue? c).map fun digit =>
    let code := 16 * code + digit
    if missing = 1 then { tokens, mode := .string (s.pushCode code) }
    else { tokens, mode := .code s (missing - 1) code }

/-- Reads a character. A numeral ends before the first character that cannot go on with it. -/
def step (lexer : Lexer) (c : Char) : Option Lexer :=
  match lexer.mode with
  | .between => start lexer.tokens c
  | .word [] _ => none
  | .word [last] token => if c = last then some (emit lexer.tokens token) else none
  | .word (letter :: rest) token =>
      if c = letter then some { lexer with mode := .word rest token } else none
  | .numeral phase numeral =>
      match phase.next? numeral c with
      | some (phase, numeral) => some { lexer with mode := .numeral phase numeral }
      | none =>
          if phase.isComplete then start (.number numeral.inOrder :: lexer.tokens) c else none
  | .string s => stringStep lexer.tokens s c
  | .escape s => escapeStep lexer.tokens s c
  | .code s missing code => codeStep lexer.tokens s missing code c

/-- The tokens, when the text ends here. -/
def finish (lexer : Lexer) : Option (List Token) :=
  match lexer.mode with
  | .between => some lexer.tokens.reverse
  | .numeral phase numeral =>
      if phase.isComplete then some (.number numeral.inOrder :: lexer.tokens).reverse
      else none
  | _ => none

end Lexer

/-- The tokens of a text. -/
def tokens? (text : List Char) : Option (List Token) := do
  let lexer ← text.foldlM Lexer.step {}
  lexer.finish

end SqlCompiler.Json
