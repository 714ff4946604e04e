import Assay.Value

/-!
# Expression trees

The tree of an expression, the references in it to the results namespace, and the operators and
built-in functions that it may use.
-/

namespace Assay

/-- One step of a reference after its leading key. -/
inductive Segment where
  /-- The field of a mapping. -/
  | field (name : String)
  /-- The element of a list at a place, or the field of a mapping that the place spells. -/
  | index (place : Nat)
  /-- Every element of a list or every value of a mapping. -/
  | wildcard
  deriving DecidableEq, Repr

/-- The text of a segment. -/
def Segment.display : Segment → String
  | .field name => name
  | .index place => toString place
  | .wildcard => "*"

/-- A dotted reference into the results namespace. -/
structure Reference where
  /-- The key in the namespace. -/
  key : String
  /-- The way from the value at the key to the value meant. -/
  path : List Segment
  deriving DecidableEq, Repr

/-- The text of a reference: its key and segments with points between them. -/
def Reference.display (reference : Reference) : String :=
  ".".intercalate (reference.key :: reference.path.map Segment.display)

/-- The operators before one operand. -/
inductive UnaryOp where
  /-- Arithmetic negation. -/
  | negate
  /-- Logical negation. -/
  | not
  deriving DecidableEq, Repr

/-- The arithmetic operators between two operands. -/
inductive BinaryOp where
  /-- Addition. -/
  | add
  /-- Subtraction. -/
  | subtract
  /-- Multiplication. -/
  | multiply
  /-- Division of doubles. -/
  | divide
  /-- Division rounded to the floor. -/
  | floorDivide
  /-- What is left over by the division rounded to the floor. -/
  | modulo
  /-- Power. -/
  | power
  deriving DecidableEq, Repr

/-- The symbol of an arithmetic operator. -/
def BinaryOp.symbol : BinaryOp → String
  | .add => "+"
  | .subtract => "-"
  | .multiply => "*"
  | .divide => "/"
  | .floorDivide => "//"
  | .modulo => "%"
  | .power => "^"

/-- The comparisons. -/
inductive CompareOp where
  /-- Equal. -/
  | equal
  /-- Not equal. -/
  | notEqual
  /-- Less. -/
  | less
  /-- Less or equal. -/
  | atMost
  /-- Greater. -/
  | greater
  /-- Greater or equal. -/
  | atLeast
  deriving DecidableEq, Repr

/-- The symbol of a comparison. -/
def CompareOp.symbol : CompareOp → String
  | .equal => "=="
  | .notEqual => "!="
  | .less => "<"
  | .atMost => "<="
  | .greater => ">"
  | .atLeast => ">="

/-- The logical operators between two operands. -/
inductive LogicalOp where
  /-- Both. -/
  | and
  /-- At least one. -/
  | or
  deriving DecidableEq, Repr

/-- The word of a logical operator. -/
def LogicalOp.symbol : LogicalOp → String
  | .and => "and"
  | .or => "or"

/-- The built-in functions. -/
inductive Builtin where
  /-- The number of elements, entries or characters. -/
  | len
  /-- The sum of a list. -/
  | sum
  /-- The average of a list. -/
  | avg
  /-- The least number of a list. -/
  | min
  /-- The greatest number of a list. -/
  | max
  /-- Whether all of a list hold. -/
  | all
  /-- Whether any of a list holds. -/
  | any
  /-- The magnitude of a number. -/
  | abs
  /-- The whole number that a value stands for. -/
  | int
  /-- The double that a value stands for. -/
  | float
  /-- A number rounded to a count of decimals. -/
  | round
  deriving DecidableEq, Repr

namespace Builtin

/-- The name by which an expression calls a function. -/
def name : Builtin → String
  | .len => "len"
  | .sum => "sum"
  | .avg => "avg"
  | .min => "min"
  | .max => "max"
  | .all => "all"
  | .any => "any"
  | .abs => "abs"
  | .int => "int"
  | .float => "float"
  | .round => "round"

/-- All built-in functions. -/
def everyOne : List Builtin :=
  [.len, .sum, .avg, .min, .max, .all, .any, .abs, .int, .float, .round]

/-- The function of a name. -/
def ofName? (name : String) : Option Builtin :=
  everyOne.find? fun builtin => builtin.name == name

/-- The least and the greatest number of arguments. -/
def arity : Builtin → Nat × Nat
  | .round => (1, 2)
  | _ => (1, 1)

/-- Whether a function takes a number of arguments. -/
def takes (builtin : Builtin) (count : Nat) : Bool :=
  builtin.arity.1 ≤ count && count ≤ builtin.arity.2

end Builtin

/-- An expression tree. -/
inductive Expr where
  /-- A value written in the expression. -/
  | literal (value : Value)
  /-- A value of the namespace. -/
  | reference (target : Reference)
  /-- A list of expressions. -/
  | list (items : List Expr)
  /-- An operator before its operand. -/
  | unary (op : UnaryOp) (operand : Expr)
  /-- An arithmetic operator between its operands. -/
  | binary (op : BinaryOp) (left right : Expr)
  /-- A comparison. -/
  | compare (op : CompareOp) (left right : Expr)
  /-- A logical operator between its operands. -/
  | logical (op : LogicalOp) (left right : Expr)
  /-- A call of a built-in function. -/
  | call (builtin : Builtin) (arguments : List Expr)

namespace Expr

instance : Inhabited Expr := ⟨.literal .null⟩

mutual

/-- The leading keys of the references in an expression, in the order of the text. -/
def keys : Expr → List String
  | .literal _ => []
  | .reference target => [target.key]
  | .list items => keysOfAll items
  | .unary _ operand => operand.keys
  | .binary _ left right => left.keys ++ right.keys
  | .compare _ left right => left.keys ++ right.keys
  | .logical _ left right => left.keys ++ right.keys
  | .call _ arguments => keysOfAll arguments

/-- The leading keys of the references in some expressions. -/
def keysOfAll : List Expr → List String
  | [] => []
  | item :: items => item.keys ++ keysOfAll items

end

/-- The keys that an expression reads, each once and in ascending order. -/
def references (tree : Expr) : List String :=
  (Mapping.ofList (tree.keys.map fun key => (key, ()))).keys

end Expr

end Assay
