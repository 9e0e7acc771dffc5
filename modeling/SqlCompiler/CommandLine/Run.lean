import SqlCompiler.CommandLine.Arguments
import SqlCompiler.CommandLine.Failure
import SqlCompiler.Config
import SqlCompiler.Document.Reader

/-! Commands and their outcomes. A command sees the world only through a source of texts, so
the same command runs on real files and on texts that are at hand. Nothing is written to the
output before every step has succeeded.
-/

namespace SqlCompiler.CommandLine

/-- Where a command gets texts from: files by their paths, and the input. -/
structure Source (m : Type → Type) where
  file : String → m (Except FileError String)
  input : m (Except FileError String)

/-- What a command comes to: its exit code, what it writes to the output, what it logs, and
what it reports if it fails.
-/
structure Outcome where
  exitCode : Nat := 0
  output : String := ""
  log : List Event := []
  report : String := ""
deriving DecidableEq, Repr

/-- The exit code for arguments that are no proper use. -/
def usageExitCode : Nat := 2

/-- The outcome of a command that fails after some events. -/
def Outcome.ofFailure (log : List Event) (failure : Failure) : Outcome where
  exitCode := 1
  log := log
  report := failure.report

/-- The line of the log for an event: its level, padded to the longest name, its message and
its fields.
-/
def logLine (event : Event) : String :=
  let level := event.level.name
  let padding := String.ofList (List.replicate (5 - level.length) ' ')
  let fields := event.fields.map fun (key, value) => " " ++ key ++ "=" ++ value
  padding ++ level ++ " " ++ event.message ++ String.join fields

/-- The configuration in a text, or the default one; a dialect that is named replaces the
one in it.
-/
def configOf (text : Option String) (dialect : Option String)
    : Except Failure Config := do
  let config ←
    match text with
    | some text => (Config.ofText text).mapError .compile
    | none => .ok {}
  match dialect with
  | some name => return { config with dialect := .ofName name }
  | none => return config

/-- Compiles the query of a document with a new binder. -/
def compileDocument (config : Config) (text : String) (kind : StatementKind)
    : Except Failure Compiled := do
  let binder ← (Binder.withPrefix config.placeholderPrefix).mapError .compile
  let some document := Document.ofText? text | .error .malformedDocument
  let query ← (document.toQuery binder).mapError .document
  ((Compiler.forConfig config).compile kind query).1.mapError .compile

/-- The bindings as a JSON object, by their placeholders. -/
def bindingsObject (bindings : List Binding) : Json :=
  .object (OrderedMap.ofList
    (bindings.map fun binding => (binding.placeholder, .ofSqlValue binding.value)))

/-- What is written about a compiled statement: its text and its bindings. -/
def statementOutput (compiled : Compiled) : String :=
  compiled.sql ++ "\n" ++ (bindingsObject compiled.bound).pretty 0 ++ "\n"

/-- The line about the plan of a kind of statement. -/
def planLine (plan : Plan) (kind : StatementKind) : String :=
  kind.name ++ ": " ++ String.intercalate " -> " ((plan.clauses kind).map Clause.name) ++ "\n"

/-- What is written about the plans of a dialect. -/
def planOutput (plan : Plan) : String :=
  String.join (StatementKind.all.map (planLine plan))

/-- The event that tells the dialect in use. -/
def dialectEvent (dialect : Dialect) : Event where
  level := .info
  message := "using dialect"
  fields := [("dialect", dialect.name)]

/-- The outcome of compiling a document. -/
def compileOutcome (config : Config) (verbose : Bool) (kind : StatementKind)
    (text : Except Failure String) : Outcome :=
  let log := [dialectEvent config.dialect]
  match text.bind (compileDocument config · kind) with
  | .error failure => .ofFailure log failure
  | .ok compiled =>
      { output := statementOutput compiled
        log := Event.upTo (if verbose then .debug else .info) (log ++ compiled.events) }

section

variable {m : Type → Type} [Monad m]

/-- The text of a file. -/
def Source.readFile (source : Source m) (path : String) : m (Except Failure String) := do
  return (← source.file path).mapError (.unreadable path)

/-- The text of a document: a hyphen stands for the input. -/
def Source.readDocument (source : Source m) (path : String)
    : m (Except Failure String) := do
  if path = "-" then return (← source.input).mapError .unreadableInput
  else source.readFile path

/-- The configuration of an invocation. -/
def Source.readConfig (source : Source m) (invocation : Invocation)
    : m (Except Failure Config) := do
  match invocation.config with
  | none => return configOf none invocation.dialect
  | some path =>
      return (← source.readFile path).bind fun text =>
        configOf (some text) invocation.dialect

/-- Carries out an invocation. -/
def run (source : Source m) (invocation : Invocation) : m Outcome := do
  match ← source.readConfig invocation with
  | .error failure => return .ofFailure [] failure
  | .ok config =>
      match invocation.command with
      | .compile file kind =>
          return compileOutcome config invocation.verbose kind (← source.readDocument file)
      | .plan =>
          return {
            output := planOutput (Compiler.forConfig config).plan
            log := [dialectEvent config.dialect] }

end

end SqlCompiler.CommandLine
