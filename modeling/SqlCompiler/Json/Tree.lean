import SqlCompiler.Json.Token

/-! JSON texts as trees. The tree is built with a stack of the arrays and objects that are
still open, so that nesting has no limit here. Numerals and strings are as the tokens have
them: whether they have a value is asked where the value is needed.
-/

namespace SqlCompiler.Json

/-- A JSON text as a tree. -/
inductive Tree
  | null
  | bool (b : Bool)
  | number (numeral : Numeral)
  | string (text : Option String)
  | array (items : List Tree)
  | object (members : List (Option String × Tree))

instance : Inhabited Tree := ⟨.null⟩

/-- The members of an object; a key has no text if half of a surrogate pair is in it. -/
abbrev Tree.Members := List (Option String × Tree)

/-- An open array or object: what it has so far, the latest first, and for an object the key
whose value is being read.
-/
inductive Frame
  | array (items : List Tree)
  | object (members : Tree.Members) (key : Option String)

/-- What a text may go on with, inside the given open arrays and objects. -/
inductive ReaderState
  | value (frames : List Frame)
  | firstItem (frames : List Frame)
  | afterItem (frames : List Frame) (items : List Tree)
  | firstKey (frames : List Frame)
  | nextKey (frames : List Frame) (members : Tree.Members)
  | afterKey (frames : List Frame) (members : Tree.Members) (key : Option String)
  | afterMember (frames : List Frame) (members : Tree.Members)
  | done (tree : Tree)

namespace ReaderState

/-- Puts a complete value where it belongs. -/
def close (tree : Tree) : List Frame → ReaderState
  | [] => done tree
  | .array items :: frames => afterItem frames (tree :: items)
  | .object members key :: frames => afterMember frames ((key, tree) :: members)

/-- Reads the first token of a value. -/
def openValue (frames : List Frame) : Token → Option ReaderState
  | .null => some (close .null frames)
  | .bool b => some (close (.bool b) frames)
  | .number numeral => some (close (.number numeral) frames)
  | .string text => some (close (.string text) frames)
  | .openArray => some (firstItem frames)
  | .openObject => some (firstKey frames)
  | .closeArray | .closeObject | .colon | .comma => none

/-- Reads a token. -/
def step : ReaderState → Token → Option ReaderState
  | value frames, token => openValue frames token
  | firstItem frames, .closeArray => some (close (.array []) frames)
  | firstItem frames, token => openValue (.array [] :: frames) token
  | afterItem frames items, .comma => some (value (.array items :: frames))
  | afterItem frames items, .closeArray => some (close (.array items.reverse) frames)
  | firstKey frames, .closeObject => some (close (.object []) frames)
  | firstKey frames, .string key => some (afterKey frames [] key)
  | nextKey frames members, .string key => some (afterKey frames members key)
  | afterKey frames members key, .colon => some (value (.object members key :: frames))
  | afterMember frames members, .comma => some (nextKey frames members)
  | afterMember frames members, .closeObject =>
      some (close (.object members.reverse) frames)
  | _, _ => none

/-- The tree, if the text is complete. -/
def finish : ReaderState → Option Tree
  | done tree => some tree
  | _ => none

end ReaderState

/-- The tree of a JSON text; `none` if the text is not JSON. -/
def Tree.ofText? (text : String) : Option Tree := do
  let tokens ← tokens? text.toList
  let state ← tokens.foldlM ReaderState.step (.value [])
  state.finish

end SqlCompiler.Json
