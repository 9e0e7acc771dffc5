import SqlCompiler.CommandLine.Run
import SqlCompiler.Text.Split

/-! Files at hand, as a tree of directories. A path is a walk through the tree, one step for
each name between slashes, and reading it yields the text of the file it leads to. The input
is a stream: what has been read of it is gone, under whatever name it was read.
-/

namespace SqlCompiler.CommandLine

/-- A file with its text, the input, or a directory with the trees in it by their names. -/
inductive FileTree
  | file (text : String)
  | input
  | directory (entries : List (String × FileTree))

namespace FileTree

/-- A directory of text files. -/
def ofTexts (files : List (String × String)) : FileTree :=
  .directory (files.map fun (name, text) => (name, .file text))

/-- Names with more bytes than this are refused. -/
def maxNameBytes : Nat := 255

/-- Paths with more bytes than this are refused. -/
def maxPathBytes : Nat := 4095

/-- Where a walk has come: the tree here, and the directories above it, the nearest first. -/
structure Place where
  tree : FileTree
  above : List FileTree

/-- The directory above, which for the topmost one is itself. -/
def Place.up (place : Place) : Place :=
  match place.above with
  | [] => place
  | parent :: above => { tree := parent, above }

/-- The topmost directory: the one place that a walk up from here ends at. -/
def Place.top (place : Place) : Place :=
  { tree := place.above.getLast?.getD place.tree, above := [] }

/-- One step of a walk. Only a directory can be gone on from; no name and a single dot stay,
two dots go up, and any other name goes down.
-/
def Place.follow (place : Place) (name : String) : Except FileError Place :=
  match place.tree with
  | .file _ | .input => .error .notDirectory
  | .directory entries =>
      if name = "" || name = "." then .ok place
      else if name = ".." then .ok place.up
      else if maxNameBytes < name.utf8ByteSize then .error .nameTooLong
      else
        match entries.lookup name with
        | some tree => .ok { tree, above := place.tree :: place.above }
        | none => .error .notFound

/-- The names of a path, in order. -/
def pathNames (path : String) : List String :=
  (Text.splitWhere (· = '/') path.toList).map String.ofList

/-- What a path leads to. A path that starts with a slash leads from the topmost directory,
any other one from here. A slash at its end is followed by no name, so it asks for a
directory.
-/
def Place.find (here : Place) (path : String) : Except FileError FileTree := do
  if path.isEmpty then .error .notFound
  else if maxPathBytes < path.utf8ByteSize then .error .nameTooLong
  else
    let start := if path.startsWith "/" then here.top else here
    return (← (pathNames path).foldlM Place.follow start).tree

/-- Takes what is left of the input, so that nothing is left. -/
def takeInput : StateM String String :=
  modifyGet fun left => (left, "")

/-- Reads what a path leads to. -/
def Place.read (here : Place) (path : String)
    : StateM String (Except FileError String) := do
  match here.find path with
  | .error error => return .error error
  | .ok (.file text) => return .ok text
  | .ok .input => return .ok (← takeInput)
  | .ok (.directory _) => return .error .isDirectory

/-- The files as seen from a place, and the input. The state is what is left of the input. -/
def Place.source (here : Place) : Source (StateM String) where
  file := here.read
  input := return .ok (← takeInput)

/-- The open descriptors of the program: the input has number zero. -/
def descriptors : FileTree :=
  .directory [("0", .input)]

/-- The devices of a host: one that is always empty, and the input. -/
def devices : FileTree :=
  .directory [("null", .file ""), ("stdin", .input), ("fd", descriptors)]

/-- The names of the directories at the top of a host about which nothing is known. -/
def unknownNames : List String :=
  ["bin", "boot", "etc", "home", "lib", "media", "mnt", "opt", "root", "run", "sbin", "srv",
    "sys", "tmp", "usr", "var"]

/-- The topmost directory of a host. -/
def host : FileTree :=
  .directory
    (("dev", devices)
      :: ("proc", .directory [("self", .directory [("fd", descriptors)])])
      :: unknownNames.map fun name => (name, .directory []))

/-- A working directory with text files, two steps below the top of a host. -/
def working (files : List (String × String)) : Place :=
  { tree := ofTexts files, above := [.directory [], host] }

end FileTree

end SqlCompiler.CommandLine
