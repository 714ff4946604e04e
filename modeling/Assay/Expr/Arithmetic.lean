import Assay.Expr.EvalError

/-!
# Arithmetic and comparison

The operators on values. Whole numbers are exact: a result outside the 64-bit words is an
overflow. Words divide toward zero, and where that is not the floor, quotient and remainder are
corrected by one divisor. When a double takes part, or in a division, both operands are taken as
doubles. Text is ordered by code point, and values of other types are only equal or not.
-/

namespace Assay

/-- A whole number or a double. -/
inductive Number where
  /-- A 64-bit whole number. -/
  | int (number : Int64)
  /-- A double. -/
  | float (number : Float)

namespace Number

/-- The double of a number, for a whole one the nearest. -/
def toFloat : Number → Float
  | .int number => Binary64.ofWord number
  | .float number => number

/-- A number as a value. -/
def toValue : Number → Value
  | .int number => .int number
  | .float number => .float number

/-- Whether a number is whole by type. -/
def isInt : Number → Bool
  | .int _ => true
  | .float _ => false

end Number

namespace Value

/-- The number that a value is, if it is one. -/
def number? : Value → Option Number
  | .int number => some (.int number)
  | .float number => some (.float number)
  | _ => none

/-- The number that a value is, or a mismatch for the operator or function that wants it. -/
def expectNumber (user : String) (value : Value) : Except EvalError Number :=
  match value.number? with
  | some number => .ok number
  | none => .error (.typeMismatch (.needsNumber user value.typeName))

/-- The truth value that a value is, or a mismatch for the operator or function that wants it. -/
def expectBool (user : String) (value : Value) : Except EvalError Bool :=
  match value.bool? with
  | some truth => .ok truth
  | none => .error (.typeMismatch (.needsBool user value.typeName))

end Value

/-- The value of a word, or the overflow of the operation that has none. -/
def orOverflow (operation : String) (result : Option Int64) : Except EvalError Value :=
  match result with
  | some word => .ok (.int word)
  | none => .error (.overflow operation)

/-- The 64-bit value of a whole number, or the overflow of the operation that led to it. -/
def fit (operation : String) (number : Int) : Except EvalError Value :=
  orOverflow operation (word? number)

/-- Whether one word can be divided by another: not by zero, and not the least one by minus one,
whose quotient is no word. -/
def canDivide (x y : Int64) : Bool := y != 0 && !(x == Int64.minValue && y == -1)

/-- Whether one of two words is negative and the other is not. -/
def opposed (x y : Int64) : Bool := decide (x < 0) != decide (y < 0)

/-- The quotient of two words rounded down. Where the division toward zero leaves something and
the words are opposed, its quotient is one too great. -/
def floorQuotient? (x y : Int64) : Option Int64 :=
  if canDivide x y then
    let quotient := x / y
    some (if x % y != 0 && opposed x y then quotient - 1 else quotient)
  else none

/-- What the division rounded down leaves. What the division toward zero leaves is negative where
the dividend is; if that is opposed to the divisor, one more divisor is added. By minus one nothing
is left, also where there is no quotient. -/
def floorRemainder? (x y : Int64) : Option Int64 :=
  if y = -1 then some 0
  else if canDivide x y then
    let left := x % y
    some (if left != 0 && opposed left y then left + y else left)
  else none

/-- The greatest exponent of a power of whole numbers. -/
def maxExponent : Nat := Nat.pow 2 32 - 1

/-- A power of whole numbers, if it and its exponent are in bounds. Past 63 only the powers of
zero, one and minus one fit a word, and they depend on no more than the parity of the exponent. -/
def wholePower? (base : Int) (exponent : Nat) : Option Int64 :=
  if maxExponent < exponent then none
  else if exponent < 64 then word? (base.pow exponent)
  else if base.natAbs ≤ 1 then word? (base.pow (64 + exponent % 2))
  else none

namespace UnaryOp

/-- Applies an operator to its operand. -/
def apply (op : UnaryOp) (operand : Value) : Except EvalError Value :=
  match op with
  | .not => (operand.expectBool "not").map fun truth => .bool !truth
  | .negate => do
    match ← operand.expectNumber "-" with
    | .int number => fit ("-" ++ toString number.toInt) (-number.toInt)
    | .float number => return .float (-number)

end UnaryOp

namespace BinaryOp

/-- Whether an operator divides. -/
def divides : BinaryOp → Bool
  | .divide | .floorDivide | .modulo => true
  | _ => false

/-- Applies an operator to doubles. -/
def applyFloat (op : BinaryOp) (x y : Float) : Float :=
  match op with
  | .add => x + y
  | .subtract => x - y
  | .multiply => x * y
  | .divide => x / y
  | .floorDivide => Binary64.floor (x / y)
  | .modulo =>
    let left := Binary64.remainder x y
    if left != 0 && (left < 0) != (y < 0) then left + y else left
  | .power => Float.pow x y

/-- Applies an operator to two values. -/
def apply (op : BinaryOp) (left right : Value) : Except EvalError Value := do
  let first ← left.expectNumber op.symbol
  let second ← right.expectNumber op.symbol
  let operation := left.display ++ " " ++ op.symbol ++ " " ++ right.display
  if op.divides && second.toFloat == 0 then throw .divisionByZero
  match op, first, second with
  | .add, .int x, .int y => fit operation (x.toInt + y.toInt)
  | .subtract, .int x, .int y => fit operation (x.toInt - y.toInt)
  | .multiply, .int x, .int y => fit operation (x.toInt * y.toInt)
  | .floorDivide, .int x, .int y => orOverflow operation (floorQuotient? x y)
  | .modulo, .int x, .int y => orOverflow operation (floorRemainder? x y)
  | .power, .int x, .int y =>
    if 0 ≤ y.toInt then orOverflow operation (wholePower? x.toInt y.toInt.toNat)
    else return .float (op.applyFloat first.toFloat second.toFloat)
  | _, _, _ => return .float (op.applyFloat first.toFloat second.toFloat)

end BinaryOp

namespace CompareOp

/-- Whether a comparison holds of two values that stand in an order, or in none. -/
def holds (op : CompareOp) (ordering : Option Ordering) : Bool :=
  match op with
  | .equal => ordering == some .eq
  | .notEqual => ordering != some .eq
  | .less => ordering == some .lt
  | .atMost => ordering == some .lt || ordering == some .eq
  | .greater => ordering == some .gt
  | .atLeast => ordering == some .gt || ordering == some .eq

/-- Compares two values. -/
def apply (op : CompareOp) (left right : Value) : Except EvalError Bool :=
  match left, right with
  | .int x, .int y => .ok (op.holds (some (Ord.compare x.toInt y.toInt)))
  | .text x, .text y => .ok (op.holds (some (Ord.compare x y)))
  | _, _ =>
    match left.number?, right.number? with
    | some x, some y => .ok (op.holds (Binary64.compare? x.toFloat y.toFloat))
    | _, _ =>
      match op with
      | .equal => .ok (left.same right)
      | .notEqual => .ok !(left.same right)
      | _ => .error (.typeMismatch (.unordered left.typeName right.typeName op))

end CompareOp

end Assay
