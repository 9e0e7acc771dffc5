import SqlCompiler.Compiler
import SqlCompiler.Json.Printer
import SqlCompiler.Json.Record

/-! Configurations name the dialect and the prefix of the placeholders. They are written as
JSON records.
-/

namespace SqlCompiler

/-- What a compiler and its queries are set up with. -/
structure Config where
  dialect : Dialect := .generic
  placeholderPrefix : String := defaultPlaceholderPrefix
deriving DecidableEq, Repr, Inhabited

namespace Config

/-- The configuration, if its placeholder prefix is one. -/
def checked (config : Config) : Except CompileError Config := do
  checkPlaceholderPrefix config.placeholderPrefix
  return config

/-- The fields of a configuration. -/
def fieldNames : List String := ["dialect", "placeholder_prefix"]

/-- Reads a configuration; what is missing takes its default. -/
def ofTree? (tree : Json.Tree) : Option Config := do
  let fields ← tree.record? fieldNames false
  let dialect ← Json.optional? fields "dialect" .generic
    fun tree => tree.string?.map Dialect.ofName
  let placeholderPrefix ← Json.optional? fields "placeholder_prefix"
    defaultPlaceholderPrefix Json.Tree.string?
  return { dialect, placeholderPrefix }

/-- The configuration in a JSON text. -/
def ofText (text : String) : Except CompileError Config :=
  match (Json.Tree.ofText? text).bind ofTree? with
  | some config => config.checked
  | none => .error .malformedConfig

/-- The JSON form of a configuration. -/
def toJson (config : Config) : Json :=
  .object
    [("dialect", .string config.dialect.name),
      ("placeholder_prefix", .string config.placeholderPrefix)]

/-- An empty query with the placeholder prefix of the configuration. -/
def newQuery (config : Config) : Except CompileError Query :=
  (Binder.withPrefix config.placeholderPrefix).map Query.withBinder

end Config

namespace Dialect

/-- Reads a dialect from the JSON text of a string. -/
def ofJsonText? (text : String) : Option Dialect := do
  let tree ← Json.Tree.ofText? text
  let name ← tree.string?
  return ofName name

/-- The JSON form of a dialect is its name. -/
def toJson (dialect : Dialect) : Json :=
  .string dialect.name

end Dialect

/-- The compiler for a configuration. -/
def Compiler.forConfig (config : Config) : Compiler :=
  forDialect config.dialect

end SqlCompiler
