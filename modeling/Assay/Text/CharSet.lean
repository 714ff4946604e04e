import Assay.Text

/-!
# Sets of characters

A set of characters is held as the ascending ranges of its code points, with gaps between them.
-/

namespace Assay

/-- A set of characters. -/
structure CharSet where
  /-- The first and the last code point of each range, in ascending order. -/
  ranges : List (Nat × Nat)
  deriving DecidableEq, Repr

namespace CharSet

-- The code points of a set are written in hexadecimal digits.
export Text (hexadecimal)

/-- The greatest code point. -/
def maxCode : Nat := 0x10FFFF

/-- Whether ascending ranges hold a code point. -/
def holdsIn (code : Nat) : List (Nat × Nat) → Bool
  | [] => false
  | (first, last) :: rest => if code < first then false else code ≤ last || holdsIn code rest

/-- Whether a set holds a code point. -/
def holdsCode (chars : CharSet) (code : Nat) : Bool := holdsIn code chars.ranges

/-- Whether a set holds a character. -/
def holds (chars : CharSet) (char : Char) : Bool := chars.holdsCode char.toNat

/-- Joins a range with those after it, which are sorted by their first code points, where they
touch. -/
def joinFrom (first last : Nat) : List (Nat × Nat) → List (Nat × Nat)
  | [] => [(first, last)]
  | (next, stop) :: rest =>
    if next ≤ last + 1 then joinFrom first (max last stop) rest
    else (first, last) :: joinFrom next stop rest

/-- Joins sorted ranges where they touch. -/
def join : List (Nat × Nat) → List (Nat × Nat)
  | [] => []
  | (first, last) :: rest => joinFrom first last rest

/-- The set of some ranges in any order. -/
def ofRanges (ranges : List (Nat × Nat)) : CharSet :=
  ⟨join (ranges.mergeSort fun left right => left.1 ≤ right.1)⟩

/-- The set of some code points. -/
def ofCodes (codes : List Nat) : CharSet := ofRanges (codes.map fun code => (code, code))

/-- The set of one character. -/
def single (char : Char) : CharSet := ⟨[(char.toNat, char.toNat)]⟩

/-- The code point of a set of one character. -/
def single? (chars : CharSet) : Option Nat :=
  match chars.ranges with
  | [(first, last)] => if first = last then some first else none
  | _ => none

/-- The set without characters. -/
def empty : CharSet := ⟨[]⟩

/-- The set of all characters. -/
def all : CharSet := ⟨[(0, maxCode)]⟩

/-- The characters of either set. -/
def union (left right : CharSet) : CharSet := ofRanges (left.ranges ++ right.ranges)

/-- The characters of any of some sets. -/
def unionAll (sets : List CharSet) : CharSet := ofRanges (sets.flatMap ranges)

/-- The gaps from a code point on that ascending ranges leave. -/
def gaps (start : Nat) : List (Nat × Nat) → List (Nat × Nat)
  | [] => if start ≤ maxCode then [(start, maxCode)] else []
  | (first, last) :: rest =>
    if start < first then (start, first - 1) :: gaps (last + 1) rest else gaps (last + 1) rest

/-- The characters outside a set. -/
def complement (chars : CharSet) : CharSet := ⟨gaps 0 chars.ranges⟩

/-- The characters of both sets. -/
def intersection (left right : CharSet) : CharSet :=
  (left.complement.union right.complement).complement

/-- The characters of the left set that are not in the right one. -/
def difference (left right : CharSet) : CharSet := left.intersection right.complement

/-- The characters of exactly one of two sets. -/
def symmetricDifference (left right : CharSet) : CharSet :=
  (left.union right).difference (left.intersection right)

/-- Whether all characters of a set are in ASCII. -/
def isAscii (chars : CharSet) : Bool := chars.ranges.all fun range => range.2 < 0x80

/-- A range in text: code points in hexadecimal, with a dash between them if there are two. -/
def rangeOfText (text : List Char) : Nat × Nat :=
  match Text.splitBy (· == '-') text with
  | [first, last] => (hexadecimal first, hexadecimal last)
  | _ => (hexadecimal text, hexadecimal text)

/-- The set of the ranges in some lines, with blanks between the ranges of a line. -/
def ofText (lines : List String) : CharSet :=
  ofRanges (lines.flatMap fun line => (Text.splitBy (· == ' ') line.toList).map rangeOfText)

end CharSet

end Assay
