import SqlCompiler.Document.Query

/-! Failures of a command, and the report that is written about them. -/

namespace SqlCompiler.CommandLine

/-- Why a file or the input cannot be read. -/
inductive FileError
  | notFound
  | notDirectory
  | isDirectory
  | nameTooLong
  /-- The bytes are not the UTF-8 form of a text. -/
  | notText
  | other (message : String)
deriving DecidableEq, Repr

/-- The message for an error. -/
def FileError.message : FileError → String
  | notFound => "No such file or directory (os error 2)"
  | notDirectory => "Not a directory (os error 20)"
  | isDirectory => "Is a directory (os error 21)"
  | nameTooLong => "File name too long (os error 36)"
  | notText => "stream did not contain valid UTF-8"
  | other message => message

/-- Why a command fails. -/
inductive Failure
  | unreadable (path : String) (error : FileError)
  | unreadableInput (error : FileError)
  | malformedDocument
  | document (error : DocumentError)
  | compile (error : CompileError)
deriving DecidableEq, Repr

namespace Failure

/-- The messages for a failure, from the outside in. -/
def chain : Failure → List String
  | unreadable path error => ["reading " ++ path, error.message]
  | unreadableInput error => [error.message]
  | malformedDocument => ["invalid query document"]
  | document error => error.chain
  | compile error => [error.message]

/-- A cause behind its head, its further lines indented to the same column. -/
def indented (head cause : String) : String :=
  let margin := List.replicate head.length ' '
  head ++ String.ofList (cause.toList.flatMap fun c => if c = '\n' then c :: margin else [c])

/-- The causes as they are written: a single one is only indented, several are numbered. -/
def causeTexts : List String → List String
  | [cause] => [indented "    " cause]
  | causes =>
      causes.zipIdx.map fun (cause, number) =>
        indented ("    " ++ toString number ++ ": ") cause

/-- The report about a failure: what failed, and below it why. -/
def report (failure : Failure) : String :=
  match failure.chain with
  | [] => ""
  | top :: causes =>
      let parts :=
        if causes.isEmpty then ["Error: " ++ top]
        else ("Error: " ++ top) :: "" :: "Caused by:" :: causeTexts causes
      String.join (parts.map (· ++ "\n"))

end Failure

end SqlCompiler.CommandLine
