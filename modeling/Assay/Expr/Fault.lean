import Assay.Expr.Tree
import Assay.Expr.Token

/-!
# Syntax faults

What is wrong with the text of an expression: where it happened, what was expected there, and what
was found instead.
-/

namespace Assay

/-- The greatest nesting of sub-expressions, operator chains and calls. -/
def maxNesting : Nat := 64

/-- What was expected where a fault happened. -/
inductive Expected where
  /-- The start of a value. -/
  | operand
  /-- An operator, or the end of the source. -/
  | operatorOrEnd
  /-- A closing parenthesis. -/
  | closeParen
  /-- What separates or ends the items of a list. -/
  | listSeparator
  /-- What separates or ends the arguments of a call. -/
  | argumentSeparator
  /-- A segment of a reference. -/
  | segment
  /-- The name of a built-in function. -/
  | function
  /-- A number of arguments that the function takes. -/
  | arity
  /-- A token. -/
  | token
  /-- Less nesting. -/
  | shallower
  deriving DecidableEq, Repr

/-- What was expected, in words. -/
def Expected.describe : Expected → String
  | .operand => "a value"
  | .operatorOrEnd => "an operator or the end of the expression"
  | .closeParen => "')'"
  | .listSeparator => "',' or ']'"
  | .argumentSeparator => "',' or ')'"
  | .segment => "a field name, index or '*'"
  | .function => "a known function"
  | .arity => "a valid argument count"
  | .token => "a valid token"
  | .shallower => "fewer levels of nesting"

/-- What was found where a fault happened. -/
inductive Found where
  /-- The end of the source. -/
  | finish
  /-- A literal or a name. -/
  | value
  /-- A logical operator, or an arithmetic one other than the minus. -/
  | operator
  /-- A minus. -/
  | minus
  /-- The word `not`. -/
  | not
  /-- A comparison. -/
  | comparison
  /-- An opening parenthesis. -/
  | openParen
  /-- A closing parenthesis. -/
  | closeParen
  /-- An opening bracket. -/
  | openBracket
  /-- A closing bracket. -/
  | closeBracket
  /-- A comma. -/
  | comma
  /-- A point. -/
  | dot
  /-- A character that starts no token. -/
  | badChar
  /-- A whole number outside the 64-bit words. -/
  | badNumber
  /-- A text without its closing quote. -/
  | unterminatedText
  /-- One equals sign alone. -/
  | singleEquals
  /-- The sign `&&` or `||`. -/
  | logicalSymbol
  /-- Too much nesting. -/
  | tooDeep
  deriving DecidableEq, Repr

/-- How a token counts when it stands where it should not. -/
def Token.found : Token → Found
  | .int _ | .float _ | .text _ | .name _ | .truth _ => .value
  | .and | .or | .plus | .star | .slash | .slashes | .percent | .caret => .operator
  | .minus => .minus
  | .not => .not
  | .equal | .notEqual | .less | .atMost | .greater | .atLeast => .comparison
  | .openParen => .openParen
  | .closeParen => .closeParen
  | .openBracket => .openBracket
  | .closeBracket => .closeBracket
  | .comma => .comma
  | .dot => .dot
  | .finish => .finish

/-- What is wrong with a call. -/
inductive CallProblem where
  /-- No built-in function has the name. -/
  | unknownFunction
  /-- The function does not take as many arguments. -/
  | argumentCount (builtin : Builtin) (count : Nat)
  deriving DecidableEq, Repr

/-- A failure to read an expression. -/
structure SyntaxFault where
  /-- The byte at which it happened. -/
  position : Nat
  /-- What was expected there. -/
  expected : Expected
  /-- What was found there. -/
  found : Found
  /-- The text found there. -/
  text : List Char
  /-- Whether it happened at the first token. -/
  atStart : Bool
  /-- What is wrong with the call there, if the fault is one of a call. -/
  call : Option CallProblem

namespace SyntaxFault

/-- Faults of one signature are the same mistake. -/
def signature (fault : SyntaxFault) : Expected × Found × Bool :=
  (fault.expected, fault.found, fault.atStart)

/-- What is wrong with the call of a name, in words. -/
def callMessage (name : String) : CallProblem → String
  | .unknownFunction => "unknown function '" ++ name ++ "'"
  | .argumentCount builtin count =>
    let (least, greatest) := builtin.arity
    let wanted :=
      if least = greatest then toString least
      else toString least ++ " to " ++ toString greatest
    name ++ "() takes " ++ wanted ++ " argument(s), got " ++ toString count

/-- The fault in words. -/
def message (fault : SyntaxFault) : String :=
  let text := String.ofList fault.text
  match fault.call with
  | some problem => callMessage text problem
  | none =>
    match fault.found with
    | .badChar => "unexpected character '" ++ text ++ "'"
    | .badNumber => "invalid number '" ++ text ++ "'"
    | .unterminatedText => "unterminated string"
    | .singleEquals | .logicalSymbol => "unexpected '" ++ text ++ "'"
    | .tooDeep =>
      "expression is nested more than " ++ toString maxNesting ++ " levels deep"
    | .finish => "unexpected end of expression, expected " ++ fault.expected.describe
    | _ =>
      "unexpected '" ++ text ++ "' at position " ++ toString fault.position ++ ", expected " ++
        fault.expected.describe

end SyntaxFault

end Assay
