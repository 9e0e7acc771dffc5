import SqlCompiler.Text.Split

/-! Blank characters, those with the Unicode property White_Space, and the trimming and
splitting of a text at them. A text is a list of characters here.
-/

namespace SqlCompiler.Text

/-- The ranges of code points that have the property White_Space, both ends included. -/
def blankRanges : List (Nat × Nat) :=
  [(0x09, 0x0D), (0x20, 0x20), (0x85, 0x85), (0xA0, 0xA0), (0x1680, 0x1680),
    (0x2000, 0x200A), (0x2028, 0x2029), (0x202F, 0x202F), (0x205F, 0x205F),
    (0x3000, 0x3000)]

/-- A character is blank when its code point lies in one of the White_Space ranges. -/
def isBlank (c : Char) : Bool :=
  blankRanges.any fun range => range.1 ≤ c.toNat && c.toNat ≤ range.2

/-- The text without the blanks it starts with. -/
def trimStart (text : List Char) : List Char :=
  text.dropWhile isBlank

/-- The text without the blanks it ends with. -/
def trimEnd (text : List Char) : List Char :=
  (text.reverse.dropWhile isBlank).reverse

/-- The text without the blanks around it. -/
def trim (text : List Char) : List Char :=
  trimEnd (trimStart text)

/-- The words of a text: its non-empty parts between blanks. -/
def words (text : List Char) : List (List Char) :=
  (splitWhere isBlank text).filter fun part => !part.isEmpty

/-- The text before the first blank and the text after it; `none` if there is no blank. -/
def cutAtBlank? (text : List Char) : Option (List Char × List Char) :=
  match text.dropWhile fun c => !isBlank c with
  | [] => none
  | _ :: after => some (text.takeWhile (fun c => !isBlank c), after)

end SqlCompiler.Text
