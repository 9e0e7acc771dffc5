import SqlCompiler.Binder

/-! Log events: what the compiler and the command line report besides their results. -/

namespace SqlCompiler

/-- How much detail an event gives. -/
inductive Level
  | info
  | debug
  | trace
deriving DecidableEq, Repr

namespace Level

/-- The name of a level. -/
def name : Level → String
  | info => "INFO"
  | debug => "DEBUG"
  | trace => "TRACE"

/-- The rank of a level: more detail ranks higher. -/
def rank : Level → Nat
  | info => 0
  | debug => 1
  | trace => 2

end Level

/-- A message with named fields. -/
structure Event where
  level : Level
  message : String
  fields : List (String × String)
deriving DecidableEq, Repr

namespace Event

/-- The events that give no more detail than a level. -/
def upTo (level : Level) (events : List Event) : List Event :=
  events.filter fun event => event.level.rank ≤ level.rank

/-- A compiler turns to another dialect. -/
def dialectSwitch (old new : Dialect) : Event where
  level := .debug
  message := "switching dialect"
  fields := [("from", old.name), ("to", new.name)]

/-- A statement was compiled, and so many values were bound. -/
def statementCompiled (kind : StatementKind) (dialect : Dialect) (bound : List Binding)
    : Event where
  level := .debug
  message := "compiled statement"
  fields :=
    [("kind", kind.name), ("dialect", dialect.name), ("bindings", toString bound.length)]

end Event

end SqlCompiler
