import Assay.Expr.Tree

/-!
# Evaluation errors

Why an expression has no value against a namespace.
-/

namespace Assay

/-- A use of a value whose type does not fit. Types are given by name. -/
inductive TypeMismatch where
  /-- An operator or function takes truth values. -/
  | needsBool (user : String) (got : String)
  /-- An operator or function takes numbers. -/
  | needsNumber (user : String) (got : String)
  /-- A reference goes into a value that has no such elements. -/
  | noElements (got : String) (reference : Reference)
  /-- Values of the two types have no order. -/
  | unordered (left right : String) (op : CompareOp)
  deriving DecidableEq, Repr

/-- A type mismatch in words. -/
def TypeMismatch.message : TypeMismatch → String
  | .needsBool user got => "'" ++ user ++ "' needs bool operands, got " ++ got
  | .needsNumber user got => "'" ++ user ++ "' needs numeric operands, got " ++ got
  | .noElements got reference =>
    "cannot index into " ++ got ++ " while resolving '" ++ reference.display ++ "'"
  | .unordered left right op =>
    "cannot order " ++ left ++ " and " ++ right ++ " with '" ++ op.symbol ++ "'"

/-- An argument that a function cannot take. -/
inductive ArgumentProblem where
  /-- There is none. -/
  | missing
  /-- It is no list. -/
  | notAList (got : String)
  /-- It is an empty list. -/
  | emptyList
  /-- It has no length. -/
  | noLength (got : String)
  /-- Its text spells no value of the wanted type. -/
  | unreadable (content : String) (wanted : String)
  /-- Its type converts to no value of the wanted type. -/
  | inconvertible (got : String) (wanted : String)
  /-- It lies outside the 64-bit whole numbers. -/
  | outsideInt (number : String)
  /-- The count of decimals is no whole number. -/
  | digitsNotInt (got : String)
  /-- The count of decimals is out of all bounds. -/
  | digitsOutOfRange (digits : Int)
  deriving DecidableEq, Repr

/-- An argument problem in words. -/
def ArgumentProblem.message : ArgumentProblem → String
  | .missing => "missing argument"
  | .notAList got => "expected a list, got " ++ got
  | .emptyList => "empty list"
  | .noLength got => "cannot take the length of " ++ got
  | .unreadable content wanted => "cannot convert '" ++ content ++ "' to " ++ wanted
  | .inconvertible got wanted => "cannot convert " ++ got ++ " to " ++ wanted
  | .outsideInt number => number ++ " does not fit in an int"
  | .digitsNotInt got => "digits must be an int, got " ++ got
  | .digitsOutOfRange digits => "digits out of range: " ++ toString digits

/-- A failure to evaluate an expression. -/
inductive EvalError where
  /-- The namespace has no value at a key. -/
  | unknownKey (key : String)
  /-- A reference names an element that is not there. -/
  | missingElement (reference : Reference) (segment : Segment)
  /-- A value has a type that does not fit. -/
  | typeMismatch (mismatch : TypeMismatch)
  /-- A divisor is zero. -/
  | divisionByZero
  /-- The result of an operation on whole numbers fits no 64-bit word. -/
  | overflow (operation : String)
  /-- A function cannot take an argument. -/
  | invalidArgument (builtin : Builtin) (problem : ArgumentProblem)
  deriving DecidableEq, Repr

/-- A failure in words. -/
def EvalError.message : EvalError → String
  | .unknownKey key => "unknown key '" ++ key ++ "'"
  | .missingElement reference segment =>
    "'" ++ reference.display ++ "' has no element '" ++ segment.display ++ "'"
  | .typeMismatch mismatch => "type mismatch: " ++ mismatch.message
  | .divisionByZero => "division by zero"
  | .overflow operation => "integer overflow in '" ++ operation ++ "'"
  | .invalidArgument builtin problem => builtin.name ++ "(): " ++ problem.message

end Assay
