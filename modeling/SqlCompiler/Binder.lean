import Std.Data.TreeMap
import SqlCompiler.Error
import SqlCompiler.Value.Basic

/-! Binders hand out placeholders, numbered from one, and remember the value that each of
them stands for.
-/

namespace SqlCompiler

/-- A placeholder and the value it stands for. -/
structure Binding where
  placeholder : String
  value : SqlValue
deriving DecidableEq, Repr

/-- The prefix of the placeholders, unless another one is asked for. -/
def defaultPlaceholderPrefix : String := "db_prep_"

/-- A letter, digit or underscore of ASCII. -/
def isPlaceholderChar (c : Char) : Bool :=
  c.isAlphanum || c = '_'

/-- A prefix goes into the SQL text as it is, so it must be a non-empty word of letters,
digits and underscores.
-/
def isPlaceholderPrefix (text : String) : Bool :=
  !text.toList.isEmpty && text.toList.all isPlaceholderChar

/-- Refuses a text that is no placeholder prefix. -/
def checkPlaceholderPrefix (text : String) : Except CompileError Unit :=
  if isPlaceholderPrefix text then .ok () else .error (.invalidPlaceholderPrefix text)

/-- The values bound so far, with the number of the next placeholder. -/
structure Binder where
  placeholderPrefix : String := defaultPlaceholderPrefix
  counter : Nat := 1
  bindings : List Binding := []
deriving DecidableEq, Repr, Inhabited

namespace Binder

/-- A new binder whose placeholders have the given prefix. -/
def withPrefix (text : String) : Except CompileError Binder := do
  checkPlaceholderPrefix text
  return { placeholderPrefix := text }

/-- The placeholder with a given number: a colon, the prefix and the number. -/
def placeholder (placeholderPrefix : String) (number : Nat) : String :=
  ":" ++ placeholderPrefix ++ toString number

/-- Binds a value to the next placeholder. -/
def prepare (binder : Binder) (value : SqlValue) : String × Binder :=
  let token := placeholder binder.placeholderPrefix binder.counter
  (token,
    { binder with
      counter := binder.counter + 1
      bindings := binder.bindings ++ [⟨token, value⟩] })

/-- Binds values in order, each to a placeholder of its own. -/
def prepareAll (binder : Binder) : List SqlValue → List String × Binder
  | [] => ([], binder)
  | value :: values =>
      let (token, next) := binder.prepare value
      let (tokens, last) := next.prepareAll values
      (token :: tokens, last)

/-- The value that a placeholder stands for. -/
def get? (binder : Binder) (placeholder : String) : Option SqlValue :=
  (binder.bindings.find? fun binding => binding.placeholder = placeholder).map (·.value)

/-- The bound values by their placeholders. -/
def toMap (binder : Binder) : Std.TreeMap String SqlValue :=
  .ofList (binder.bindings.map fun binding => (binding.placeholder, binding.value))

/-- The bound values, in the order they were bound in. -/
def values (binder : Binder) : List SqlValue :=
  binder.bindings.map (·.value)

/-- The number of bound values. -/
def size (binder : Binder) : Nat :=
  binder.bindings.length

/-- No value is bound. -/
def isEmpty (binder : Binder) : Bool :=
  binder.bindings.isEmpty

/-- Forgets all bindings and numbers from one again; the prefix stays. -/
def reset (binder : Binder) : Binder :=
  { placeholderPrefix := binder.placeholderPrefix }

end Binder

end SqlCompiler
