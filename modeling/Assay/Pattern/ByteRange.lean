import Assay.Text.CharSet

/-!
# Sets of characters as bytes

In UTF-8 a set of characters is a list of sequences of byte ranges: the bytes of a character fit
exactly one of the sequences. The sequences stand in the order of their characters.
-/

namespace Assay

/-- The first and the last byte of a range. -/
abbrev ByteRange := Nat × Nat

namespace ByteRange

/-- The sequences for the numbers from one to another that are written with a lead byte, which
counts from the given one, and a number of further bytes of six bits each. -/
def sequences (lead : Nat) : Nat → Nat → Nat → List (List ByteRange)
  | 0, low, high => [[(lead + low, lead + high)]]
  | further + 1, low, high =>
    let unit := Nat.pow 64 (further + 1)
    let first := low / unit
    let last := high / unit
    let under (byte low high : Nat) :=
      (sequences 0x80 further low high).map ((lead + byte, lead + byte) :: ·)
    if first = last then under first (low % unit) (high % unit)
    else
      let whole := List.replicate (further + 1) (0x80, 0xbf)
      let cutLow := low % unit ≠ 0
      let cutHigh := high % unit ≠ unit - 1
      let from_ := if cutLow then first + 1 else first
      let upTo := if cutHigh then last - 1 else last
      (if cutLow then under first (low % unit) (unit - 1) else []) ++
        (if from_ ≤ upTo then [(lead + from_, lead + upTo) :: whole] else []) ++
        (if cutHigh then under last 0 (high % unit) else [])

/-- The code points that take the same number of bytes: the first and the last, the lead byte that
they count from and the number of further bytes. Surrogates are no characters. -/
def lengths : List (Nat × Nat × Nat × Nat) :=
  [(0, 0x7f, 0, 0), (0x80, 0x7ff, 0xc0, 1), (0x800, 0xd7ff, 0xe0, 2), (0xe000, 0xffff, 0xe0, 2),
    (0x10000, 0x10ffff, 0xf0, 3)]

/-- The sequences of the characters of a range. -/
def ofRange (low high : Nat) : List (List ByteRange) :=
  lengths.flatMap fun (first, last, lead, further) =>
    if max low first ≤ min high last then
      sequences lead further (max low first) (min high last)
    else []

end ByteRange

/-- The sequences of bytes of a set's characters. -/
def CharSet.byteSequences (chars : CharSet) : List (List ByteRange) :=
  chars.ranges.flatMap fun (low, high) => ByteRange.ofRange low high

end Assay
