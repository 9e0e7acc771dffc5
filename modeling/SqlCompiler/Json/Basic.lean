import SqlCompiler.Json.Tree
import SqlCompiler.OrderedMap
import SqlCompiler.Value.Basic

/-! JSON values. Reading a value asks more of a text than JSON does: numbers have to be in
range, surrogates have to come in pairs, and nesting has a limit.
-/

namespace SqlCompiler

/-- A JSON value. The members of an object are in the order of the text. -/
inductive Json
  | null
  | bool (b : Bool)
  | number (n : Json.Number)
  | string (s : String)
  | array (items : List Json)
  | object (members : List (String × Json))

namespace Json

instance : Inhabited Json := ⟨.null⟩

/-- Arrays and objects may be nested this deep. -/
def nestingLimit : Nat := 127

/-- The value of a tree in which so many arrays and objects may be nested. A key that is
repeated stands where it first comes up and has its last value.
-/
def ofTree? : (levels : Nat) → Tree → Option Json
  | _, .null => some .null
  | _, .bool b => some (.bool b)
  | _, .number numeral => numeral.number?.map .number
  | _, .string text => text.map .string
  | 0, .array _ => none
  | 0, .object _ => none
  | levels + 1, .array items => (items.mapM (ofTree? levels)).map .array
  | levels + 1, .object members => do
      let pairs ← members.mapM fun (key, tree) => do
        return (← key, ← ofTree? levels tree)
      return .object (OrderedMap.ofList pairs)

/-- The JSON form of an SQL value. A blob is the array of its bytes; what is no finite
number is null.
-/
def ofSqlValue : SqlValue → Json
  | .null => .null
  | .bool b => .bool b
  | .int n => .number (.integer n.toInt)
  | .float x =>
      match x.form with
      | .finite _ _ _ => .number (.float x)
      | .infinite _ => .null
      | .nan => .null
  | .text s => .string s
  | .blob bytes => .array (bytes.map fun byte => .number (.integer byte.toNat))

end Json

end SqlCompiler
