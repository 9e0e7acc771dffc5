/-! The parts of a text between separators, and its lines. Every separator ends a part and
starts another, so there is one part more than there are separators, and parts can be empty.
-/

namespace SqlCompiler.Text

/-- The parts between the characters that separate, in order. -/
def splitWhere (separates : Char → Bool) : List Char → List (List Char)
  | [] => [[]]
  | c :: rest =>
      if separates c then [] :: splitWhere separates rest
      else
        match splitWhere separates rest with
        | [] => [[c]]
        | part :: parts => (c :: part) :: parts

/-- A line without the carriage return that belongs to its end. -/
def dropReturn (line : List Char) : List Char :=
  if line.getLast? = some '\r' then line.dropLast else line

/-- The lines of a text. A line ends with a line feed or with a carriage return and a line
feed; what is left behind the last end is a line too, unless it is empty.
-/
def lines (text : List Char) : List (List Char) :=
  let parts := splitWhere (· = '\n') text
  parts.dropLast.map dropReturn ++ (parts.getLast?.toList.filter fun part => !part.isEmpty)

end SqlCompiler.Text
