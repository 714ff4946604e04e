/-!
# Exact arithmetic on doubles

A finite double is a sign and a significand times a power of two. Rounding to a whole number and
the remainder of a division are computed on these parts and so are exact. Powers to a whole
exponent and sums are defined by the order in which their rounded steps are taken. A 64-bit word
is taken as the double nearest to it.
-/

namespace Assay.Binary64

/-- The finite number `± significand * 2 ^ exponent`. -/
structure Parts where
  /-- Whether the sign is minus. -/
  negative : Bool
  /-- The magnitude in units of the last place. -/
  significand : Nat
  /-- The last place as a power of two. -/
  exponent : Int
  deriving DecidableEq, Repr

/-- The parts of a finite double, read off its bits. -/
def parts (x : Float) : Parts :=
  let bits : Nat := x.toBits.toNat
  let fraction : Nat := bits % Nat.pow 2 52
  let biased : Nat := (bits / Nat.pow 2 52) % Nat.pow 2 11
  let negative : Bool := Nat.pow 2 63 ≤ bits
  if biased = 0 then ⟨negative, fraction, -1074⟩
  else ⟨negative, Nat.pow 2 52 + fraction, (biased : Int) - 1075⟩

/-- The double with given parts, rounded toward zero where it has no place for them all. -/
def ofParts (number : Parts) : Float :=
  let top := (number.significand.log2 : Int) + number.exponent
  let last : Int := max (top - 52) (-1074)
  let significand :=
    if last ≤ number.exponent then
      number.significand * Nat.pow 2 (number.exponent - last).toNat
    else number.significand / Nat.pow 2 (last - number.exponent).toNat
  let bits := if number.significand = 0 then 0 else (last + 1074).toNat * Nat.pow 2 52 + significand
  let magnitude := Float.ofBits (UInt64.ofNat bits)
  if number.negative then -magnitude else magnitude

/-- The whole part of a magnitude, and the numerator and denominator of what is left over. -/
def Parts.split (number : Parts) : Nat × Nat × Nat :=
  if 0 ≤ number.exponent then (number.significand * Nat.pow 2 number.exponent.toNat, 0, 1)
  else
    let unit := Nat.pow 2 (-number.exponent).toNat
    (number.significand / unit, number.significand % unit, unit)

/-- The whole number nearest to zero's side of a finite double. -/
def toInt (x : Float) : Int :=
  let number := parts x
  let (whole, _, _) := number.split
  if number.negative then -(whole : Int) else whole

/-- A rounding decides from the sign, the whole part and what is left over whether to go to the
next magnitude. -/
def roundBy (away : Bool → Nat → Nat → Nat → Bool) (x : Float) : Float :=
  if !x.isFinite then x
  else
    let number := parts x
    let (whole, left, unit) := number.split
    let whole := if away number.negative whole left unit then whole + 1 else whole
    ofParts ⟨number.negative, whole, 0⟩

/-- The whole number at or next below. -/
def floor : Float → Float :=
  roundBy fun negative _ left _ => negative && left != 0

/-- The whole number at or next toward zero. -/
def truncate : Float → Float :=
  roundBy fun _ _ _ _ => false

/-- The nearest whole number, and of two the even one. -/
def roundEven : Float → Float :=
  roundBy fun _ whole left unit => unit < 2 * left || (2 * left == unit && whole % 2 == 1)

/-- What is left of `x` after as many whole `y` as fit, with the sign of `x`. -/
def remainder (x y : Float) : Float :=
  if !x.isFinite || y.isNaN || y == 0 then 0.0 / 0.0
  else if y.isInf then x
  else
    let dividend := parts x
    let divisor := parts y
    let exponent := min dividend.exponent divisor.exponent
    let scaled (number : Parts) := number.significand * Nat.pow 2 (number.exponent - exponent).toNat
    ofParts ⟨dividend.negative, scaled dividend % scaled divisor, exponent⟩

/-- The double nearest to a word, and of two the one with an even significand. -/
def ofWord (number : Int64) : Float := .ofModel (.ofInt64 number)

/-- Multiplies `product` by `base` to the given power, squaring the base from step to step. -/
def powerFrom (base product : Float) (power : Nat) : Float :=
  let product := if power % 2 = 1 then product * base else product
  if power / 2 = 0 then product else powerFrom (base * base) product (power / 2)
termination_by power
decreasing_by omega

/-- A power to a whole exponent; a negative one is the reciprocal of its opposite. -/
def power (base : Float) (exponent : Int) : Float :=
  let magnitude := powerFrom base 1 exponent.natAbs
  if exponent < 0 then 1 / magnitude else magnitude

/-- The sum taken from left to right. It starts from minus zero, which changes no number. -/
def sum (numbers : List Float) : Float :=
  numbers.foldl (· + ·) (-0.0)

/-- The order of two doubles. None of it holds when one of them is no number. -/
def compare? (x y : Float) : Option Ordering :=
  if x < y then some .lt
  else if y < x then some .gt
  else if x == y then some .eq
  else none

end Assay.Binary64
