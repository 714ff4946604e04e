import Assay.Expr.Arithmetic
import Assay.Value.Typed

/-!
# Built-in functions

What the functions of the expression language yield for their arguments. Sums are taken from left
to right; the least and the greatest of a list are found by comparing doubles, and of equal ones
the first is kept.
-/

namespace Assay.Builtin

/-- The failure of a function on an argument. -/
def invalid {α : Type} (builtin : Builtin) (problem : ArgumentProblem) : Except EvalError α :=
  .error (.invalidArgument builtin problem)

/-- The items of a list. -/
def items (builtin : Builtin) : Value → Except EvalError (List Value)
  | .list items => .ok items
  | other => builtin.invalid (.notAList other.typeName)

/-- The numbers of a list. -/
def numbers (builtin : Builtin) (value : Value) : Except EvalError (List Number) := do
  (← builtin.items value).mapM (Value.expectNumber builtin.name)

/-- The truth values of a list. -/
def truths (builtin : Builtin) (value : Value) : Except EvalError (List Bool) := do
  (← builtin.items value).mapM (Value.expectBool builtin.name)

/-- The total of whole numbers, if every sum on the way from left to right fits a word. -/
def total? (start : Int64) : List Number → Option Int64
  | [] => some start
  | .int number :: rest => (word? (start.toInt + number.toInt)).bind (total? · rest)
  | .float _ :: _ => none

/-- The double as a whole number, if it lies within the 64-bit words. -/
def wholeNumber (builtin : Builtin) (number : Float) : Except EvalError Value :=
  let outside := builtin.invalid (.outsideInt (Decimal.positional.write number))
  if number.isFinite then
    match word? (Binary64.toInt number) with
    | some word => .ok (.int word)
    | none => outside
  else outside

/-- The length of a value. -/
def length (value : Value) : Except EvalError Value :=
  match value with
  | .list items => fit "len()" items.length
  | .mapping entries => fit "len()" entries.size
  | .text content => fit "len()" content.length
  | other => Builtin.len.invalid (.noLength other.typeName)

/-- The sum of a list, a whole number if all of the list are. -/
def sumOf (value : Value) : Except EvalError Value := do
  let numbers ← Builtin.sum.numbers value
  if numbers.all Number.isInt then
    match total? 0 numbers with
    | some total => return .int total
    | none => throw (.overflow "sum()")
  else return .float (Binary64.sum (numbers.map Number.toFloat))

/-- The average of a list. -/
def average (value : Value) : Except EvalError Value := do
  let numbers ← Builtin.avg.numbers value
  if numbers.isEmpty then Builtin.avg.invalid .emptyList
  else
    return .float (Binary64.sum (numbers.map Number.toFloat) / Float.ofNat numbers.length)

/-- The number of a list that stands in the wanted order to all others, the first such one. -/
def extreme (builtin : Builtin) (wanted : Ordering) (value : Value) :
    Except EvalError Value := do
  match ← builtin.numbers value with
  | [] => builtin.invalid .emptyList
  | first :: rest =>
    let best := rest.foldl (fun best number =>
      if Binary64.compare? number.toFloat best.toFloat == some wanted then number else best) first
    return best.toValue

/-- The magnitude of a number. -/
def magnitude (value : Value) : Except EvalError Value := do
  match ← value.expectNumber "abs" with
  | .int number => fit ("abs(" ++ toString number.toInt ++ ")") number.toInt.natAbs
  | .float number => return .float number.abs

/-- The whole number that a value stands for. -/
def toInt (value : Value) : Except EvalError Value :=
  match value with
  | .int number => .ok (.int number)
  | .float number => Builtin.int.wholeNumber (Binary64.truncate number)
  | .text content =>
    match Decimal.readWord? (Text.trim content) with
    | some number => .ok (.int number)
    | none => Builtin.int.invalid (.unreadable content "int")
  | other => Builtin.int.invalid (.inconvertible other.typeName "int")

/-- The double that a value stands for. -/
def toFloat (value : Value) : Except EvalError Value :=
  match value with
  | .int number => .ok (.float (Binary64.ofWord number))
  | .float number => .ok (.float number)
  | .text content =>
    let trimmed := Text.trim content
    match if Decimal.spellsNumber trimmed then Decimal.readFloat? trimmed else none with
    | some number => .ok (.float number)
    | none => Builtin.float.invalid (.unreadable content "float")
  | other => Builtin.float.invalid (.inconvertible other.typeName "float")

/-- The bounds of a count of decimals. -/
def maxDigits : Int := Int.pow 2 31 - 1

/-- A number rounded to the nearest whole one or, when a count of decimals is given, to the
nearest multiple of that power of ten. Halves go to the even neighbour. -/
def roundTo (value : Value) (digits : Option Value) : Except EvalError Value := do
  let number := (← value.expectNumber "round").toFloat
  match digits with
  | none => Builtin.round.wholeNumber (Binary64.roundEven number)
  | some (.int digits) =>
    if -maxDigits - 1 ≤ digits.toInt ∧ digits.toInt ≤ maxDigits then
      let scale := Binary64.power 10 digits.toInt
      return .float (Binary64.roundEven (number * scale) / scale)
    else Builtin.round.invalid (.digitsOutOfRange digits.toInt)
  | some other => Builtin.round.invalid (.digitsNotInt other.typeName)

/-- Calls a function on its arguments. -/
def apply (builtin : Builtin) (arguments : List Value) : Except EvalError Value :=
  match arguments with
  | [] => builtin.invalid .missing
  | first :: rest =>
    match builtin with
    | .len => length first
    | .sum => sumOf first
    | .avg => average first
    | .min => extreme .min .lt first
    | .max => extreme .max .gt first
    | .all => (Builtin.all.truths first).map fun truths => .bool (truths.all id)
    | .any => (Builtin.any.truths first).map fun truths => .bool (truths.any id)
    | .abs => magnitude first
    | .int => toInt first
    | .float => toFloat first
    | .round => roundTo first rest.head?

end Assay.Builtin
