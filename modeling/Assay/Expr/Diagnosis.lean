import Assay.Expr.Parser

/-!
# Diagnosed syntax errors

A fault is shown with the source around it, a caret under the place, and the likely mistake. The
mistake is found by example: each known one comes with expressions that make it, and the first one
with an example of the same signature is named.
-/

namespace Assay

/-- A mistake in writing expressions. -/
structure Mistake where
  /-- Its name. -/
  label : String
  /-- Expressions in which it is made. -/
  examples : List String

/-- A parenthesized number with one level of parentheses too many. -/
def tooDeepExample : String :=
  String.ofList (List.replicate (maxNesting + 1) '(' ++ '1' :: List.replicate (maxNesting + 1) ')')

/-- The known mistakes. The first that fits is the one named. -/
def knownMistakes : List Mistake := [
  ⟨"Empty expression", [""]⟩,
  ⟨"Missing value at the end of the expression", ["1 +", "a and", "not", "("]⟩,
  ⟨"Two operators in a row", ["1 + * 2", "a and or b", "1 == == 2"]⟩,
  ⟨"Operator is missing its left-hand value", ["* 2", "and b", "== 3"]⟩,
  ⟨"Comparisons cannot be chained", ["a < b < c", "(a < b < c)"]⟩,
  ⟨"Missing operator between values", ["1 2", "(1 2)"]⟩,
  ⟨"Unbalanced closing parenthesis", ["1 + 2)", ")"]⟩,
  ⟨"Unbalanced closing bracket", ["a]", "]"]⟩,
  ⟨"Missing closing parenthesis", ["(1 + 2", "len(a"]⟩,
  ⟨"Missing comma between arguments or list items", ["len(a b)", "[1 2]"]⟩,
  ⟨"Missing closing bracket", ["[1, 2"]⟩,
  ⟨"Incomplete variable reference", ["a.", "a..b", "a.(b)"]⟩,
  ⟨"Unknown function", ["foo(1)", "1 + foo(2)"]⟩,
  ⟨"Wrong number of function arguments", ["len(1, 2)", "1 + len()"]⟩,
  ⟨"Unterminated string", ["\"abc"]⟩,
  ⟨"Invalid character", ["a $ b"]⟩,
  ⟨"Use '==' to compare values", ["a = 1"]⟩,
  ⟨"Use 'and' / 'or' instead of '&&' / '||'", ["a && b"]⟩,
  ⟨"Number is malformed or too large", ["99999999999999999999"]⟩,
  ⟨"Expression is nested too deeply", [tooDeepExample]⟩]

/-- Whether a source fails with a fault of the given signature. -/
def failsLike (fault : SyntaxFault) (source : String) : Bool :=
  match Expr.read source with
  | .error other => other.signature == fault.signature
  | .ok _ => false

/-- The first known mistake with an example that fails in the same way. -/
def SyntaxFault.diagnosis? (fault : SyntaxFault) : Option String :=
  (knownMistakes.find? fun mistake => mistake.examples.any (failsLike fault)).map Mistake.label

/-- An expression that cannot be read. -/
structure ParseError where
  /-- The text of the expression. -/
  source : String
  /-- What is wrong with it. -/
  fault : SyntaxFault

namespace ParseError

/-- The most characters shown on either side of a fault. -/
def span : Nat := 40

/-- Splits text after the given number of bytes. -/
def splitAt : Nat → List Char → List Char × List Char
  | _, [] => ([], [])
  | bytes, char :: rest =>
    if bytes = 0 then ([], char :: rest)
    else
      let (front, back) := splitAt (bytes - char.utf8Size) rest
      (char :: front, back)

/-- The part of the line at a byte of a source that is shown: before and from the byte on. -/
def excerpt (source : String) (position : Nat) : List Char × List Char :=
  let (front, back) := splitAt position source.toList
  let line := (front.reverse.takeWhile (· != '\n')).reverse
  (line.drop (line.length - span), (back.takeWhile (· != '\n')).take span)

/-- The source around the fault, with a caret under it. -/
def context (error : ParseError) : String :=
  let (before, after) := excerpt error.source error.fault.position
  String.ofList (before ++ after ++ '\n' :: List.replicate before.length ' ' ++ ['^'])

/-- The byte at which the fault happened. -/
def position (error : ParseError) : Nat := error.fault.position

/-- The likely mistake. -/
def diagnosis? (error : ParseError) : Option String := error.fault.diagnosis?

/-- The fault in words, led by the likely mistake. -/
def message (error : ParseError) : String :=
  error.diagnosis?.getD "invalid syntax" ++ ": " ++ error.fault.message

end ParseError

/-- An expression with the text it was read from. -/
structure Expression where
  /-- The text. -/
  source : String
  /-- Its tree. -/
  tree : Expr

namespace Expression

instance : Inhabited Expression := ⟨⟨"", default⟩⟩

/-- Reads an expression. -/
def read (source : String) : Except ParseError Expression :=
  match Expr.read source with
  | .ok tree => .ok ⟨source, tree⟩
  | .error fault => .error ⟨source, fault⟩

/-- The keys that an expression reads, each once and in ascending order. -/
def references (expression : Expression) : List String := expression.tree.references

end Expression

end Assay
