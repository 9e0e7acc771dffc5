/-! Delimited texts: a text between two delimiters, in which the delimiter itself is written
twice. Identifiers and SQL text literals are both written in this form.
-/

namespace SqlCompiler.Text

/-- The text with every occurrence of the delimiter written twice. -/
def double (delimiter : Char) (text : List Char) : List Char :=
  text.flatMap fun c => if c = delimiter then [c, c] else [c]

/-- The text between two delimiters, with every delimiter inside written twice. -/
def delimit (delimiter : Char) (text : List Char) : List Char :=
  delimiter :: (double delimiter text ++ [delimiter])

/-- Every run of delimiters, read from the left in pairs, is complete. -/
def isDoubled (delimiter : Char) : List Char → Bool
  | [] => true
  | [c] => c != delimiter
  | c :: d :: rest =>
      if c = delimiter then d = delimiter && isDoubled delimiter rest
      else isDoubled delimiter (d :: rest)

/-- The text is in delimited form already: it opens and closes with the delimiter, by two
different characters, and what lies between has its delimiters written twice.
-/
def isDelimited (delimiter : Char) : List Char → Bool
  | [] => false
  | first :: rest =>
      first = delimiter && rest.getLast? = some delimiter
        && isDoubled delimiter rest.dropLast

end SqlCompiler.Text
