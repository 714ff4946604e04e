import Assay.Binary64
import Assay.Decimal

/-!
# Shortest decimals

Among the decimals that read back as a given double, the ones with the fewest digits, and of these
the one nearest to the double. The reals that round to a double form an interval; each grid of
decimals is searched in it, from the coarsest on, by comparing naturals.
-/

namespace Assay.Decimal

/-- Which of two equally near decimals is taken. -/
inductive Tie where
  /-- The one with an even last digit. -/
  | even
  /-- The greater one. -/
  | up
  deriving DecidableEq, Repr

/-- A positive real number and the ends of the interval that rounds to it, as numerators of one
denominator. -/
structure Target where
  /-- The number itself. -/
  exact : Nat
  /-- The lower end. -/
  low : Nat
  /-- The upper end. -/
  high : Nat
  /-- The common denominator. -/
  denominator : Nat
  /-- Whether the ends round to the number too. -/
  closed : Bool

namespace Target

/-- The target of a finite double other than zero. The gap below a power of two is half the gap
above it, save where the numbers get no denser. -/
def ofParts (number : Binary64.Parts) : Target :=
  let quarters := 4 * number.significand
  let narrow := number.significand = Nat.pow 2 52 ∧ -1074 < number.exponent
  let scale := Nat.pow 2 (number.exponent - 2).toNat
  { exact := quarters * scale
    low := (if narrow then quarters - 1 else quarters - 2) * scale
    high := (quarters + 2) * scale
    denominator := Nat.pow 2 (2 - number.exponent).toNat
    closed := number.significand % 2 = 0 }

/-- The target in units of `10 ^ place`. -/
def inUnits (target : Target) (place : Int) : Target :=
  let up := Nat.pow 10 (-place).toNat
  { target with
    exact := target.exact * up
    low := target.low * up
    high := target.high * up
    denominator := target.denominator * Nat.pow 10 place.toNat }

/-- Whether a whole number of units lies in the interval. -/
def holds (target : Target) (units : Nat) : Bool :=
  let scaled := units * target.denominator
  if target.closed then target.low ≤ scaled && scaled ≤ target.high
  else target.low < scaled && scaled < target.high

/-- The whole number of units in the interval that is nearest to the target. One of the two
neighbours of the target is in the interval if any is. -/
def nearest? (target : Target) (tie : Tie) : Option Nat :=
  let below := target.exact / target.denominator
  let above := below + 1
  match below != 0 && target.holds below, target.holds above with
  | false, false => none
  | true, false => some below
  | false, true => some above
  | true, true =>
    let twice := 2 * target.exact
    let middle := (below + above) * target.denominator
    if twice < middle then some below
    else if middle < twice then some above
    else
      match tie with
      | .up => some above
      | .even => some (if below % 2 = 0 then below else above)

/-- Searches the grids of the places from `place` downward. -/
def search (target : Target) (tie : Tie) : Nat → Int → Decimal
  | 0, place => ⟨(target.inUnits place).exact / (target.inUnits place).denominator, place⟩
  | grids + 1, place =>
    match (target.inUnits place).nearest? tie with
    | some units => ⟨units, place⟩
    | none => search target tie grids (place - 1)

end Target

/-- The shortest decimal of the magnitude of a finite double. The first place searched lies above
the leading digit, which stands at about three tenths of the leading binary place; eighteen
places below it the grid is finer than the doubles. -/
def shortest (tie : Tie) (x : Float) : Decimal :=
  let number := Binary64.parts x
  if number.significand = 0 then ⟨0, 0⟩
  else
    let top : Int := number.significand.log2 + number.exponent
    (Target.ofParts number).search tie 20 (top * 1233 / 4096 + 1)

end Assay.Decimal
