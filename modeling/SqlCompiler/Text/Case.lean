/-! Letter case over ASCII. Letters outside ASCII keep their case and equal only themselves. -/

namespace SqlCompiler.Text

/-- The text with the letters `A` to `Z` in lower case. -/
def lower (text : List Char) : List Char :=
  text.map Char.toLower

/-- The text with the letters `a` to `z` in upper case. -/
def upper (text : List Char) : List Char :=
  text.map Char.toUpper

/-- What follows `keyword`, a text in lower case, when `text` starts with it in any case. -/
def afterKeyword? : (keyword text : List Char) → Option (List Char)
  | [], text => some text
  | _ :: _, [] => none
  | k :: keyword, c :: text =>
      if c.toLower = k then afterKeyword? keyword text else none

end SqlCompiler.Text
