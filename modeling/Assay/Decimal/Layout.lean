import Assay.Decimal.Shortest

/-!
# Layouts of decimal numbers

How the shortest decimal of a double is written: which magnitudes are written with a plain point,
and how an exponent looks. A layout is a record of these decisions.
-/

namespace Assay.Decimal

/-- The decisions of a written form of doubles. -/
structure Layout where
  /-- Whether a number whose leading digit stands at a place is written without an exponent. -/
  plain : Int → Bool
  /-- Whether a whole number ends in `.0` when it has no exponent. -/
  pointZero : Bool
  /-- Whether a positive exponent has a plus. -/
  plusExponent : Bool
  /-- Which of two equally near shortest decimals is taken. -/
  tie : Tie

/-- As many zeros. -/
def zeros (count : Nat) : List Char := List.replicate count '0'

/-- The digits of a number with a plain point, `last` being the place of the last digit. -/
def plainChars (pointZero : Bool) (digits : List Char) (last : Int) : List Char :=
  if 0 ≤ last then
    digits ++ zeros last.toNat ++ if pointZero then ['.', '0'] else []
  else
    let places := (-last).toNat
    let padded := zeros (places + 1 - digits.length) ++ digits
    padded.take (padded.length - places) ++ '.' :: padded.drop (padded.length - places)

/-- The digits of a number with a point after the first one and an exponent. -/
def exponentChars (plusExponent : Bool) (digits : List Char) (leading : Int) : List Char :=
  let mantissa :=
    match digits with
    | first :: second :: rest => first :: '.' :: second :: rest
    | short => short
  let sign := if leading < 0 then ['-'] else if plusExponent then ['+'] else []
  mantissa ++ 'e' :: sign ++ Nat.toDigits 10 leading.natAbs

/-- Drops the zeros at the end of the digits. -/
def strip (number : Decimal) : Decimal :=
  let digits := Nat.toDigits 10 number.digits
  let kept := Text.dropEnd (· == '0') digits
  ⟨Text.numeral kept, number.exponent + (digits.length - kept.length : Nat)⟩

/-- Writes a decimal magnitude. -/
def Layout.chars (layout : Layout) (number : Decimal) : List Char :=
  let number := if number.digits = 0 then ⟨0, 0⟩ else number.strip
  let digits := Nat.toDigits 10 number.digits
  let leading : Int := number.exponent + digits.length - 1
  if layout.plain leading then plainChars layout.pointZero digits number.exponent
  else exponentChars layout.plusExponent digits leading

/-- Writes a double. The words for infinity and for no number are the same in every layout. -/
def Layout.write (layout : Layout) (x : Float) : String :=
  if x.isNaN then "NaN"
  else
    let magnitude :=
      if x.isInf then "inf".toList else layout.chars (shortest layout.tie x)
    String.ofList (if (Binary64.parts x).negative then '-' :: magnitude else magnitude)

/-- Numbers from `1e-4` to below `1e16` are plain; a whole one shows a decimal. -/
def readable : Layout where
  plain leading := -4 ≤ leading && leading < 16
  pointZero := true
  plusExponent := false
  tie := .up

/-- No number has an exponent. -/
def positional : Layout where
  plain _ := true
  pointZero := false
  plusExponent := false
  tie := .up

end Assay.Decimal
