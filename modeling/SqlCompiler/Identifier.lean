import SqlCompiler.Text.Delimited

/-! Quoting of identifiers. A dotted identifier is quoted segment by segment; a star and a
segment that is in delimited form already stay as they are, so a quoted name may be handed
in wherever a plain one may.
-/

namespace SqlCompiler.Identifier

open Text

/-- Puts a character in front of the first segment. -/
def consToFirst (c : Char) : List (List Char) → List (List Char)
  | [] => [[c]]
  | segment :: segments => (c :: segment) :: segments

/-- The segments of an identifier, given whether its start lies inside a quotation. A dot
separates two segments when it stands outside every quotation; each quote character enters
or leaves one.
-/
def segmentsFrom (quoteChar : Char) : (quoted : Bool) → List Char → List (List Char)
  | _, [] => [[]]
  | quoted, c :: rest =>
      if c = quoteChar then consToFirst c (segmentsFrom quoteChar (!quoted) rest)
      else if c = '.' && !quoted then [] :: segmentsFrom quoteChar quoted rest
      else consToFirst c (segmentsFrom quoteChar quoted rest)

/-- The segments of an identifier: its parts between the dots outside quotations. -/
def segments (quoteChar : Char) (name : List Char) : List (List Char) :=
  segmentsFrom quoteChar false name

/-- A star and a delimited segment stay as they are; any other segment is delimited. -/
def quoteSegment (quoteChar : Char) (segment : List Char) : List Char :=
  if segment = ['*'] || isDelimited quoteChar segment then segment
  else delimit quoteChar segment

/-- The quoted form of an identifier, as characters. -/
def quoteChars (quoteChar : Char) (name : List Char) : List Char :=
  List.intercalate ['.'] ((segments quoteChar name).map (quoteSegment quoteChar))

/-- The quoted form of an identifier: its quoted segments, joined by dots. -/
def quote (quoteChar : Char) (name : String) : String :=
  String.ofList (quoteChars quoteChar name.toList)

end SqlCompiler.Identifier
