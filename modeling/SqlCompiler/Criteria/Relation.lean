import SqlCompiler.Error
import SqlCompiler.Text.Blank
import SqlCompiler.Text.Case
import SqlCompiler.Value.Basic

/-! Relations between a column and values, and the keywords that name them. -/

namespace SqlCompiler

/-- A comparison with one value. -/
inductive CompareOp
  | eq
  | ne
  | lt
  | le
  | gt
  | ge
deriving DecidableEq, Repr

/-- The symbol of a comparison. -/
def CompareOp.symbol : CompareOp → String
  | eq => "="
  | ne => "!="
  | lt => "<"
  | le => "<="
  | gt => ">"
  | ge => ">="

/-- What a predicate asserts of its column. -/
inductive Relation
  | compare (op : CompareOp) (value : Value)
  | isIn (values : List Value)
  | notIn (values : List Value)
  | between (low high : Value)
  | like (pattern : Value)
  | isNull
  | isNotNull
deriving DecidableEq, Repr

namespace Relation

/-- The keyword of a relation. -/
def keyword : Relation → String
  | compare op _ => op.symbol
  | isIn _ => "IN"
  | notIn _ => "NOT IN"
  | between _ _ => "BETWEEN"
  | like _ => "LIKE"
  | isNull => "IS NULL"
  | isNotNull => "IS NOT NULL"

/-- The values a relation mentions, in the order they are written in. -/
def values : Relation → List Value
  | compare _ value => [value]
  | isIn values => values
  | notIn values => values
  | between low high => [low, high]
  | like pattern => [pattern]
  | isNull => []
  | isNotNull => []

/-- Equality with an operand: with a list, membership in it. -/
def equals : Operand → Relation
  | .single value => compare .eq value
  | .list values => isIn values

/-- Difference from an operand: from a list, membership in none of it. -/
def differs : Operand → Relation
  | .single value => compare .ne value
  | .list values => notIn values

end Relation

/-- What a keyword asks for, before it is applied to an operand. -/
inductive Operator
  | equals
  | differs
  | compare (op : CompareOp)
  | like
  | isIn
  | notIn
  | between
  | isNull
  | isNotNull
deriving DecidableEq, Repr

namespace Operator

/-- The keywords, in normal form. -/
def keywords : List (String × Operator) :=
  [("=", equals), ("==", equals), ("EQ", equals),
    ("!=", differs), ("<>", differs), ("NE", differs),
    ("<", compare .lt), ("LT", compare .lt),
    ("<=", compare .le), ("LE", compare .le),
    (">", compare .gt), ("GT", compare .gt),
    (">=", compare .ge), ("GE", compare .ge),
    ("LIKE", like),
    ("IN", isIn),
    ("NOT IN", notIn), ("NOTIN", notIn),
    ("IS NULL", isNull), ("ISNULL", isNull),
    ("IS NOT NULL", isNotNull), ("NOTNULL", isNotNull),
    ("BETWEEN", between)]

/-- The normal form of a keyword: its words in upper case, one space between them. -/
def normalize (keyword : String) : String :=
  String.ofList (Text.upper (List.intercalate [' '] (Text.words keyword.toList)))

/-- The operator that a keyword asks for. -/
def ofKeyword? (keyword : String) : Option Operator :=
  keywords.lookup (normalize keyword)

end Operator

namespace Relation

/-- The one value of an operand that stands beside a comparison; a list must have exactly
one element.
-/
def scalar (keyword : String) : Operand → Except CompileError Value
  | .single value => .ok value
  | .list [value] => .ok value
  | .list values => .error (.listForScalar keyword values.length)

/-- Applies an operator to an operand. The column and the keyword, in normal form, go into
the errors.
-/
def ofOperator (column keyword : String) (operand : Operand)
    : Operator → Except CompileError Relation
  | .equals => .ok (equals operand)
  | .differs => .ok (differs operand)
  | .compare op => (scalar keyword operand).map (compare op)
  | .like => (scalar keyword operand).map like
  | .isIn => .ok (isIn operand.values)
  | .notIn => .ok (notIn operand.values)
  | .isNull => .ok isNull
  | .isNotNull => .ok isNotNull
  | .between =>
      match operand.values with
      | [low, high] => .ok (between low high)
      | values => .error (.malformedBetween column values.length)

/-- The relation that a keyword and an operand describe. -/
def ofKeyword (column keyword : String) (operand : Operand)
    : Except CompileError Relation :=
  match Operator.ofKeyword? keyword with
  | some operator => ofOperator column (Operator.normalize keyword) operand operator
  | none => .error (.unknownRelation keyword)

end Relation

end SqlCompiler
