import SqlCompiler.Statement.Kind

/-! Command line arguments. The dialect, the configuration and the verbosity may be given
before the command and again behind it; what stands nearer to the command wins, and the
environment supplies what is given in neither place.
-/

namespace SqlCompiler.CommandLine

/-- What an option sets. -/
inductive Setting
  | dialect
  | config
  | verbose
  | kind
deriving DecidableEq, Repr

namespace Setting

/-- The setting of a long option. -/
def ofLong? : String → Option Setting
  | "dialect" => some dialect
  | "config" => some config
  | "verbose" => some verbose
  | "kind" => some kind
  | _ => none

/-- The setting of a short option. -/
def ofShort? : Char → Option Setting
  | 'd' => some dialect
  | 'c' => some config
  | 'v' => some verbose
  | 'k' => some kind
  | _ => none

/-- The option takes a value. -/
def takesValue : Setting → Bool
  | verbose => false
  | dialect | config | kind => true

end Setting

/-- The options and words given in one place: before the command, or behind it. -/
structure Section where
  settings : List (Setting × String) := []
  words : List String := []
deriving DecidableEq, Repr

namespace Section

/-- The value of an option. -/
def value? (part : Section) (setting : Setting) : Option String :=
  part.settings.lookup setting

/-- Sets an option; it may be given once in a section. -/
def set? (part : Section) (setting : Setting) (value : String) : Option Section :=
  if (part.value? setting).isSome then none
  else some { part with settings := part.settings ++ [(setting, value)] }

/-- Adds a word. -/
def addWord (part : Section) (word : String) : Section :=
  { part with words := part.words ++ [word] }

end Section

/-- A section while it is read, and the option that still waits for its value. -/
structure Scan where
  part : Section := {}
  pending : Option Setting := none
deriving DecidableEq, Repr

namespace Scan

/-- Reads an option with the value attached to it, if there is one. -/
def option? (scan : Scan) (setting : Setting) (attached : Option String) : Option Scan :=
  match setting.takesValue, attached with
  | true, some value => (scan.part.set? setting value).map ({ part := · })
  | true, none => some { scan with pending := some setting }
  | false, none => (scan.part.set? setting "").map ({ part := · })
  | false, some _ => none

/-- Reads a long option: a name, or a name, an equals sign and a value. -/
def long? (accepted : Setting → Bool) (scan : Scan) (body : List Char) : Option Scan := do
  let setting ← Setting.ofLong? (String.ofList (body.takeWhile (· ≠ '=')))
  guard (accepted setting)
  match body.dropWhile (· ≠ '=') with
  | [] => scan.option? setting none
  | _ :: value => scan.option? setting (some (String.ofList value))

/-- Reads short options that share one hyphen. What follows the letter of an option with a
value is its value, with an equals sign before it or without one.
-/
def short? (accepted : Setting → Bool) (scan : Scan) : List Char → Option Scan
  | [] => some scan
  | letter :: rest => do
      let setting ← Setting.ofShort? letter
      guard (accepted setting)
      match setting.takesValue, rest with
      | false, _ => short? accepted (← scan.option? setting none) rest
      | true, [] => scan.option? setting none
      | true, '=' :: value => scan.option? setting (some (String.ofList value))
      | true, value => scan.option? setting (some (String.ofList value))

/-- Reads the value that an option waits for. It must not look like an option. -/
def value? (scan : Scan) (setting : Setting) (argument : String) : Option Scan :=
  if argument.startsWith "-" && argument ≠ "-" then none
  else (scan.part.set? setting argument).map ({ part := · })

end Scan

/-- Reads the arguments of a section. A section that ends at a word leaves over the
arguments behind it. Behind two hyphens all arguments are words, for which such a section
has no use.
-/
def scanSection (accepted : Setting → Bool) (endsAtWord : Bool)
    : Scan → List String → Option (Section × List String)
  | { part, pending := none }, [] => some (part, [])
  | { pending := some _, .. }, [] => none
  | { part, pending := some setting }, argument :: rest => do
      let scan ← Scan.value? { part } setting argument
      scanSection accepted endsAtWord scan rest
  | { part, pending := none }, argument :: rest =>
      match argument.toList with
      | ['-', '-'] =>
          if endsAtWord then none
          else some ({ part with words := part.words ++ rest }, [])
      | '-' :: '-' :: body => do
          scanSection accepted endsAtWord (← Scan.long? accepted { part } body) rest
      | '-' :: letter :: letters => do
          let scan ← Scan.short? accepted { part } (letter :: letters)
          scanSection accepted endsAtWord scan rest
      | _ =>
          if endsAtWord then some (part.addWord argument, rest)
          else scanSection accepted endsAtWord { part := part.addWord argument } rest

/-- What is to be done. -/
inductive Command
  | compile (file : String) (kind : StatementKind)
  | plan
deriving DecidableEq, Repr

/-- A command with its options. -/
structure Invocation where
  dialect : Option String
  config : Option String
  verbose : Bool
  command : Command
deriving DecidableEq, Repr

/-- What the environment supplies. -/
structure Environment where
  dialect : Option String := none
  config : Option String := none
deriving DecidableEq, Repr

namespace Invocation

/-- The options that every section accepts. -/
def isGlobal : Setting → Bool
  | .dialect | .config | .verbose => true
  | .kind => false

/-- The path, unless it is empty. -/
def path? (text : String) : Option String :=
  if text.isEmpty then none else some text

/-- The command of a name, with the options and words behind it. -/
def command? (name : String) (rest : List String) : Option (Section × Command) :=
  match name with
  | "compile" => do
      let (part, _) ← scanSection (fun _ => true) false {} rest
      let file ←
        match part.words with
        | [word] => path? word
        | _ => none
      let kind ← StatementKind.ofName? ((part.value? .kind).getD StatementKind.select.name)
      return (part, .compile file kind)
  | "plan" => do
      let (part, _) ← scanSection isGlobal false {} rest
      guard part.words.isEmpty
      return (part, .plan)
  | _ => none

/-- The configuration path that a section has, its own or the one of the environment, is not
empty.
-/
def hasUsableConfig (environment : Environment) (part : Section) : Bool :=
  ((part.value? .config).or environment.config) ≠ some ""

/-- The invocation that the arguments describe; `none` if they are no proper use. -/
def ofArguments? (environment : Environment) (arguments : List String)
    : Option Invocation := do
  let (outer, rest) ← scanSection isGlobal true {} arguments
  let name ← outer.words.head?
  let (inner, command) ← command? name rest
  guard (hasUsableConfig environment outer && hasUsableConfig environment inner)
  let choose (setting : Setting) (fallback : Option String) : Option String :=
    (inner.value? setting).or ((outer.value? setting).or fallback)
  return {
    dialect := choose .dialect environment.dialect
    config := choose .config environment.config
    verbose := (choose .verbose none).isSome
    command }

end Invocation

end SqlCompiler.CommandLine
