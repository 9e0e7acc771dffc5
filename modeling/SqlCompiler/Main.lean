import SqlCompiler.CommandLine.Run

/-! The command line program. -/

open SqlCompiler
open SqlCompiler.CommandLine

/-- An error number of the system, which some operations give negated. -/
def isErrorNumber (code number : UInt32) : Bool :=
  code = number || code = -number

/-- The reason that a file operation gives for its failure. -/
def fileErrorOf : IO.Error → FileError
  | .noFileOrDirectory .. => .notFound
  | .inappropriateType _ code _ =>
      if isErrorNumber code 20 then .notDirectory else .isDirectory
  | .invalidArgument _ code details =>
      if isErrorNumber code 36 then .nameTooLong else .other details
  | error => .other (toString error)

/-- The text that is read as some bytes. -/
def readText (bytes : IO ByteArray) : IO (Except FileError String) := do
  try
    match String.fromUTF8? (← bytes) with
    | some text => return .ok text
    | none => return .error .notText
  catch error =>
    return .error (fileErrorOf error)

/-- Real files and the standard input. -/
def realSource : Source IO where
  file path := readText (IO.FS.readBinFile path)
  input := readText (do (← IO.getStdin).readBinToEnd)

def main (arguments : List String) : IO UInt32 := do
  let environment : Environment :=
    { dialect := ← IO.getEnv "SCORE_SQL_DIALECT", config := ← IO.getEnv "SCORE_SQL_CONFIG" }
  match Invocation.ofArguments? environment arguments with
  | none =>
      IO.eprintln "usage: [-d DIALECT] [-c CONFIG] [-v] (compile FILE [-k KIND] | plan)"
      return UInt32.ofNat usageExitCode
  | some invocation =>
      let outcome ← run realSource invocation
      for event in outcome.log do
        IO.eprintln (logLine event)
      IO.eprint outcome.report
      IO.print outcome.output
      return UInt32.ofNat outcome.exitCode
