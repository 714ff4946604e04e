import Assay.Text

/-!
# Decimal numerals

The numerals `12`, `1.5`, `.5`, `5.` and `2e-3`, their exact decimal value, and the double nearest
to it. Beside them stand the words that name an infinity or no number at all.
-/

namespace Assay

/-- The number `digits * 10 ^ exponent`. -/
structure Decimal where
  /-- The significant digits as a whole number. -/
  digits : Nat
  /-- The place of the last digit. -/
  exponent : Int
  deriving DecidableEq, Repr

namespace Decimal

/-- The number of decimal digits, for zero one. -/
def length (number : Nat) : Nat := (Nat.toDigits 10 number).length

/-- The nearest double, the even one of two. Outside the places of a double it is infinity or
zero. -/
def toFloat (number : Decimal) : Float :=
  let top := number.exponent + length number.digits
  if number.digits = 0 ∨ top < -400 then 0
  else if 400 < top then 1.0 / 0.0
  else if 0 ≤ number.exponent then Float.ofScientific number.digits false number.exponent.toNat
  else Float.ofScientific number.digits true (-number.exponent).toNat

/-- A sign and the characters after it. -/
def splitSign : List Char → Bool × List Char
  | '-' :: rest => (true, rest)
  | '+' :: rest => (false, rest)
  | rest => (false, rest)

/-- The exponent of a numeral: nothing, or a mark, an optional sign and at least one digit up to
the end. -/
def readExponent? : List Char → Option Int
  | [] => some 0
  | mark :: rest =>
    if mark = 'e' ∨ mark = 'E' then
      let (negative, digits) := splitSign rest
      if digits.isEmpty || !digits.all Text.isDigit then none
      else
        let magnitude := Text.numeral digits
        some (if negative then -(magnitude : Int) else magnitude)
    else none

/-- Reads a numeral without a sign. At least one digit stands before or after the point. -/
def read? (chars : List Char) : Option Decimal :=
  let whole := chars.takeWhile Text.isDigit
  let afterWhole := chars.dropWhile Text.isDigit
  let (fraction, tail) :=
    match afterWhole with
    | '.' :: rest => (rest.takeWhile Text.isDigit, rest.dropWhile Text.isDigit)
    | rest => ([], rest)
  if whole.isEmpty && fraction.isEmpty then none
  else (readExponent? tail).map fun exponent =>
    ⟨Text.numeral (whole ++ fraction), exponent - fraction.length⟩

/-- Reads a magnitude: a numeral, or a word for infinity or for no number in letters of either
case. -/
def readMagnitude? (chars : List Char) : Option Float :=
  if Text.sameLetters chars "inf".toList || Text.sameLetters chars "infinity".toList then
    some (1.0 / 0.0)
  else if Text.sameLetters chars "nan".toList then some (0.0 / 0.0)
  else (read? chars).map toFloat

/-- Reads a double with an optional sign. -/
def readFloat? (text : String) : Option Float :=
  let (negative, rest) := splitSign text.toList
  (readMagnitude? rest).map fun magnitude => if negative then -magnitude else magnitude

/-- Reads a whole number with an optional sign. -/
def readInt? (text : String) : Option Int :=
  let (negative, digits) := splitSign text.toList
  if digits.isEmpty || !digits.all Text.isDigit then none
  else some (if negative then -(Text.numeral digits : Int) else Text.numeral digits)

end Decimal

/-- The 64-bit word that holds a whole number, if one does. -/
def word? (number : Int) : Option Int64 :=
  if Int64.minValue.toInt ≤ number ∧ number ≤ Int64.maxValue.toInt then some (Int64.ofInt number)
  else none

/-- Reads a 64-bit word with an optional sign. -/
def Decimal.readWord? (text : String) : Option Int64 := (readInt? text).bind word?

end Assay
