import Assay.Json.Reader

/-!
# Values from JSON

What a document means as a value. A whole number in the 64-bit words is a whole number, save minus
zero; every other number is a double. The double of a literal is found from the digits that fit a
64-bit word without sign, scaled by a power of ten; a magnitude beyond the doubles is no value.
Documents are only nested so deep.
-/

namespace Assay.Json

/-- The greatest depth of nesting, counting one more than is allowed. -/
def maxDepth : Nat := 128

/-- Digits gathered into a word without sign. -/
structure Gathered where
  /-- The number of the digits that fit. -/
  significand : Nat
  /-- The number of digits that fit. -/
  taken : Nat
  /-- Whether a digit did not fit, after which none is taken. -/
  full : Bool

/-- The first number beyond the words without sign. -/
def wordLimit : Nat := Nat.pow 2 64

/-- Gathers digits up to the first that does not fit. -/
def gather (start : Nat) (digits : List Char) : Gathered :=
  digits.foldl (fun gathered digit =>
    let significand := gathered.significand * 10 + Text.digitValue digit
    if gathered.full || wordLimit ≤ significand then { gathered with full := true }
    else ⟨significand, gathered.taken + 1, false⟩) ⟨start, 0, false⟩

/-- The greatest power of ten that is a double. -/
def maxPower : Nat := 308

/-- A power of ten as a double. -/
def powerOfTen (exponent : Nat) : Float := Decimal.toFloat ⟨1, exponent⟩

/-- Divides by a power of ten, in steps where the power is no double. -/
def shrink (number : Float) (exponent : Nat) : Float :=
  if exponent ≤ maxPower then number / powerOfTen exponent
  else if number == 0 then number
  else shrink (number / powerOfTen maxPower) (exponent - maxPower)
termination_by exponent
decreasing_by
  simp only [maxPower] at *
  omega

/-- Scales a significand by a power of ten, if the result is a double. -/
def scale? (significand : Nat) (exponent : Int) : Option Float :=
  let number := (UInt64.ofNat significand).toFloat
  if exponent < 0 then some (shrink number exponent.natAbs)
  else if maxPower < exponent.natAbs then if number == 0 then some number else none
  else
    let scaled := number * powerOfTen exponent.natAbs
    if scaled.isInf then none else some scaled

/-- The greatest exponent that is read. -/
def maxExponent : Nat := Nat.pow 2 31 - 1

/-- An exponent kept within the bounds of those that are read. -/
def clampExponent (exponent : Int) : Int :=
  max (-(maxExponent : Int) - 1) (min maxExponent exponent)

/-- The parts of a literal. -/
structure LiteralParts where
  /-- Whether there is a minus. -/
  negative : Bool
  /-- The digits before the point. -/
  whole : List Char
  /-- The digits after the point. -/
  fraction : List Char
  /-- The exponent: whether it is negative, and its digits. -/
  exponent : Option (Bool × List Char)

/-- Takes a literal apart. -/
def literalParts (literal : List Char) : LiteralParts :=
  let (negative, rest) := Decimal.splitSign literal
  let afterWhole := rest.dropWhile Text.isDigit
  let (fraction, rest) :=
    match afterWhole with
    | '.' :: digits => (digits.takeWhile Text.isDigit, digits.dropWhile Text.isDigit)
    | other => ([], other)
  { negative
    whole := literal.dropWhile (· == '-') |>.takeWhile Text.isDigit
    fraction
    exponent :=
      match rest with
      | [] => none
      | _ :: digits => some (Decimal.splitSign digits) }

/-- The magnitude of a literal as a double. -/
def magnitude? (parts : LiteralParts) : Option Float :=
  let whole := gather 0 parts.whole
  let dropped : Int := (parts.whole.length - whole.taken : Nat)
  let all := gather whole.significand parts.fraction
  let place := dropped - all.taken
  match parts.exponent with
  | none => scale? all.significand place
  | some (negative, digits) =>
    let exponent := Text.numeral digits
    if maxExponent < exponent then
      if all.significand ≠ 0 ∧ !negative then none else some 0
    else
      scale? all.significand
        (clampExponent (if negative then place - exponent else place + exponent))

/-- The value of a literal. -/
def numberValue? (literal : List Char) : Option Value :=
  let parts := literalParts literal
  let double := (magnitude? parts).map fun magnitude =>
    Value.float (if parts.negative then -magnitude else magnitude)
  if parts.fraction.isEmpty && parts.exponent.isNone then
    let whole := Text.numeral parts.whole
    if parts.negative && whole == 0 then double
    else
      match word? (if parts.negative then -(whole : Int) else whole) with
      | some word => some (.int word)
      | none => double
  else double

mutual

/-- The value of a document, if it has one at the given depth still left. -/
def toValue? (depth : Nat) : Json → Option Value
  | .null => some .null
  | .bool truth => some (.bool truth)
  | .number literal => numberValue? literal
  | .text content => content.map .text
  | .array items => if depth ≤ 1 then none else (itemValues? (depth - 1) items).map .list
  | .object members =>
    if depth ≤ 1 then none
    else (memberValues? (depth - 1) members).map fun pairs => .mapping (Mapping.ofList pairs)

/-- The values of the items of an array. -/
def itemValues? (depth : Nat) : List Json → Option (List Value)
  | [] => some []
  | item :: items => do
    let value ← item.toValue? depth
    let values ← itemValues? depth items
    return value :: values

/-- The keys and values of the members of an object. -/
def memberValues? (depth : Nat) : List (Option String × Json) → Option (List (String × Value))
  | [] => some []
  | (key, member) :: members => do
    let value ← member.toValue? depth
    let pairs ← memberValues? depth members
    return (← key, value) :: pairs

end

/-- The namespace of a document at the given depth still left. -/
def toNamespace? (depth : Nat) (document : Json) : Option Namespace :=
  match document.toValue? depth with
  | some (.mapping results) => some results
  | _ => none

end Assay.Json

namespace Assay

/-- Reads a namespace from JSON text. A later member replaces an earlier one of its key. -/
def Namespace.ofJsonText? (text : String) : Option Namespace :=
  (Json.read? text).bind (Json.toNamespace? Json.maxDepth)

/-- Reads a value from JSON text. -/
def Value.ofJsonText? (text : String) : Option Value :=
  (Json.read? text).bind (Json.toValue? Json.maxDepth)

end Assay
