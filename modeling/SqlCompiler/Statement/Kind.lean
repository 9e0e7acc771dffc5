/-! The kinds of statement that a query compiles to. -/

namespace SqlCompiler

/-- What a statement does. -/
inductive StatementKind
  | select
  | insert
  | update
  | delete
deriving DecidableEq, Repr

namespace StatementKind

/-- All kinds, in the order they are listed in. -/
def all : List StatementKind := [select, insert, update, delete]

/-- The words a statement starts with. -/
def keyword : StatementKind → String
  | select => "SELECT"
  | insert => "INSERT INTO"
  | update => "UPDATE"
  | delete => "DELETE FROM"

/-- The name of a kind. -/
def name : StatementKind → String
  | select => "select"
  | insert => "insert"
  | update => "update"
  | delete => "delete"

instance : ToString StatementKind := ⟨name⟩

/-- The kind with a given name, which is matched exactly. -/
def ofName? (name : String) : Option StatementKind :=
  all.find? fun kind => kind.name = name

end StatementKind

end SqlCompiler
