import SqlCompiler.Text.Blank
import SqlCompiler.Text.Case

/-! The SQL dialects, the names they go by, and the features that differ between them. -/

namespace SqlCompiler

/-- A family of databases that share their SQL. `generic` stands for plain ANSI SQL. -/
inductive Dialect
  | mysql
  | pgsql
  | sqlite
  | generic
deriving DecidableEq, Repr

instance : Inhabited Dialect := ⟨.generic⟩

namespace Dialect

/-- The name a dialect is written by. -/
def name : Dialect → String
  | mysql => "mysql"
  | pgsql => "pgsql"
  | sqlite => "sqlite"
  | generic => "generic"

instance : ToString Dialect := ⟨name⟩

/-- The names a dialect is known by, in lower case. Every name that is not listed means the
generic dialect.
-/
def knownNames : List (String × Dialect) :=
  [("mysql", mysql), ("mariadb", mysql), ("pgsql", pgsql), ("postgres", pgsql),
    ("postgresql", pgsql), ("sqlite", sqlite), ("sqlite3", sqlite)]

/-- The dialect of a name, whatever the case of its letters and the blanks around it. -/
def ofName (name : String) : Dialect :=
  (knownNames.lookup (String.ofList (Text.lower (Text.trim name.toList)))).getD generic

/-- The character that delimits identifiers. -/
def quoteChar : Dialect → Char
  | mysql => '\x60'
  | pgsql | sqlite | generic => '"'

/-- The dialect has the clause `RETURNING`. -/
def supportsReturning : Dialect → Bool
  | pgsql => true
  | mysql | sqlite | generic => false

/-- The dialect has the clause `FOR UPDATE`. -/
def supportsRowLocks : Dialect → Bool
  | sqlite => false
  | mysql | pgsql | generic => true

end Dialect

end SqlCompiler
