import SqlCompiler.Decimal.Layout
import SqlCompiler.Json.Basic

/-! The text of JSON values, on one line or indented. -/

namespace SqlCompiler.Json

/-- A binary64 number is written without an exponent from `1e-5` to below `1e16`, and a
whole number with one zero behind the point. Of two equally near decimals the even one is
written.
-/
def floatLayout : Decimal.Layout where
  tie := .even
  positional := fun exponent => -5 ≤ exponent && exponent ≤ 15
  wholeMark := ".0".toList

/-- The text of a number. -/
def Number.text : Number → String
  | .integer n => toString n
  | .float x =>
      match x.form with
      | .finite negative mantissa exponent =>
          Decimal.writeBinary floatLayout negative mantissa exponent
      | .infinite _ => "null"
      | .nan => "null"

/-- A control character as a code unit of four hexadecimal digits. -/
def codeEscape (c : Char) : List Char :=
  "\\u00".toList ++ [Nat.digitChar (c.toNat / 16), Nat.digitChar (c.toNat % 16)]

/-- A character inside a string. Only quotes, backslashes and control characters are
escaped.
-/
def escapeChar (c : Char) : List Char :=
  match c with
  | '"' => ['\\', '"']
  | '\\' => ['\\', '\\']
  | '\x08' => ['\\', 'b']
  | '\x0c' => ['\\', 'f']
  | '\n' => ['\\', 'n']
  | '\r' => ['\\', 'r']
  | '\t' => ['\\', 't']
  | c => if c < ' ' then codeEscape c else [c]

/-- The text of a string, with its quotes. -/
def quoted (s : String) : String :=
  String.ofList ('"' :: (s.toList.flatMap escapeChar ++ ['"']))

mutual

/-- The text of a value on one line, without blanks. -/
def compact : Json → String
  | .null => "null"
  | .bool b => toString b
  | .number n => n.text
  | .string s => quoted s
  | .array items => "[" ++ String.intercalate "," (compactItems items) ++ "]"
  | .object members => "\x7b" ++ String.intercalate "," (compactMembers members) ++ "\x7d"

/-- The texts of the items of an array. -/
def compactItems : List Json → List String
  | [] => []
  | item :: items => compact item :: compactItems items

/-- The texts of the members of an object. -/
def compactMembers : List (String × Json) → List String
  | [] => []
  | (key, value) :: members => (quoted key ++ ":" ++ compact value) :: compactMembers members

end

/-- A line break and the indentation of a nesting depth. -/
def newline (depth : Nat) : String :=
  "\n" ++ String.ofList (List.replicate (2 * depth) ' ')

/-- Some lines between brackets; no line at all if there are none. -/
def block (opening closing : String) (depth : Nat) (lines : List String) : String :=
  if lines.isEmpty then opening ++ closing
  else
    opening ++ newline (depth + 1) ++ String.intercalate ("," ++ newline (depth + 1)) lines
      ++ newline depth ++ closing

mutual

/-- The text of a value inside so many arrays and objects, each item and member on a line of
its own.
-/
def pretty (depth : Nat) : Json → String
  | .array items => block "[" "]" depth (prettyItems (depth + 1) items)
  | .object members => block "\x7b" "\x7d" depth (prettyMembers (depth + 1) members)
  | .null => "null"
  | .bool b => toString b
  | .number n => n.text
  | .string s => quoted s

/-- The lines of the items of an array. -/
def prettyItems (depth : Nat) : List Json → List String
  | [] => []
  | item :: items => pretty depth item :: prettyItems depth items

/-- The lines of the members of an object. -/
def prettyMembers (depth : Nat) : List (String × Json) → List String
  | [] => []
  | (key, value) :: members =>
      (quoted key ++ ": " ++ pretty depth value) :: prettyMembers depth members

end

end SqlCompiler.Json
