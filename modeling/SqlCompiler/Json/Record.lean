import SqlCompiler.Json.Basic

/-! Records in JSON: values with named fields, written as an object or as the array of their
fields in order. Trailing fields of the array may be missing.
-/

namespace SqlCompiler.Json

/-- No name comes up twice among the first components. -/
def hasDistinctKeys {α : Type} (pairs : List (String × α)) : Bool :=
  (pairs.map (·.1)).Nodup

namespace Tree

/-- The fields that an object or an array gives to a record with these field names. A field
may be given once. An object may have members that are no fields only if the record is not
`closed`; they are not looked into.
-/
def record? (names : List String) (closed : Bool) : Tree → Option (List (String × Tree))
  | .array items =>
      if items.length ≤ names.length then some (names.zip items) else none
  | .object members => do
      let pairs ← members.mapM fun (key, tree) => key.map (·, tree)
      let fields := pairs.filter fun pair => names.contains pair.1
      if hasDistinctKeys fields && (!closed || fields.length = pairs.length) then
        some fields
      else none
  | _ => none

/-- Reads a string. -/
def string? : Tree → Option String
  | .string text => text
  | _ => none

/-- Reads a truth value. -/
def bool? : Tree → Option Bool
  | .bool b => some b
  | _ => none

/-- Reads null as nothing, and all else as it is read without that. -/
def nullable? {α : Type} (read : Tree → Option α) : Tree → Option (Option α)
  | .null => some none
  | tree => (read tree).map some

/-- Reads an array. -/
def list? {α : Type} (read : Tree → Option α) : Tree → Option (List α)
  | .array items => items.mapM read
  | _ => none

end Tree

/-- Reads a field that has to be there. -/
def required? {α : Type} (fields : List (String × Tree)) (name : String)
    (read : Tree → Option α) : Option α :=
  (fields.lookup name).bind read

/-- Reads a field that has a default. -/
def optional? {α : Type} (fields : List (String × Tree)) (name : String) (default : α)
    (read : Tree → Option α) : Option α :=
  match fields.lookup name with
  | some tree => read tree
  | none => some default

end SqlCompiler.Json
