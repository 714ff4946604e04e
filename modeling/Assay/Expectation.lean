import Assay.Binary64
import Assay.Decimal

/-!
# Expected values

An entry such as `10`, `1.5-3` or `-5--1` that says which numbers are expected: a single one, or a
range with both its ends. A dash after the first character separates the ends of a range; the
lower end is the text of digits, with a sign and a point at most, right before a dash. The first
such place in the entry is taken, and what stands before it is passed over.
-/

namespace Assay

/-- Why a matcher cannot be made or cannot run. -/
inductive MatcherError where
  /-- The text is no pattern. -/
  | invalidPattern (pattern : String)
  /-- The text is no number. -/
  | invalidValue (text : String)
  /-- The text is no range, or one with its ends exchanged. -/
  | invalidRange (text : String)
  /-- There is no such way to choose among matches. -/
  | invalidMode (mode : String)
  /-- The output cannot be read. -/
  | io (cause : String)
  deriving DecidableEq, Repr

/-- A matcher error in words. -/
def MatcherError.message : MatcherError → String
  | .invalidPattern pattern => "invalid regular expression '" ++ pattern ++ "'"
  | .invalidValue text => "invalid value: " ++ text
  | .invalidRange text => "invalid range: " ++ text
  | .invalidMode mode =>
    "invalid match_type '" ++ mode ++ "', expected one of: first, last, all"
  | .io cause => "IO error: " ++ cause

/-- The numbers that an entry expects. -/
inductive Expectation where
  /-- One number. -/
  | exact (number : Float)
  /-- The numbers from one to another. -/
  | range (low high : Float)

namespace Expectation

/-- Whether a dash stands after the first character. -/
def hasInnerDash (chars : List Char) : Bool := chars.tail.contains '-'

/-- Digits with a point at most before a dash, and what follows the dash. -/
def numeralBeforeDash? (chars : List Char) : Option (List Char × List Char) :=
  let whole := chars.takeWhile Text.isDigit
  let afterWhole := chars.dropWhile Text.isDigit
  let (point, afterPoint) :=
    match afterWhole with
    | '.' :: rest => (['.'], rest)
    | rest => ([], rest)
  match afterPoint.dropWhile Text.isDigit with
  | '-' :: rest => some (whole ++ point ++ afterPoint.takeWhile Text.isDigit, rest)
  | _ => none

/-- The lower end of a range at the front of a text, and what follows the dash after it. A dash at
the front is a sign where a numeral follows, and else it is the separating dash itself. -/
def lowerEnd? : List Char → Option (List Char × List Char)
  | '-' :: rest =>
    match numeralBeforeDash? rest with
    | some (digits, after) => some ('-' :: digits, after)
    | none => some ([], rest)
  | chars => numeralBeforeDash? chars

/-- The ends of a range, taken at the first place where there is a lower end. The upper end goes on
to the end of the line. -/
def splitRange? : List Char → Option (List Char × List Char)
  | [] => none
  | char :: rest =>
    match lowerEnd? (char :: rest) with
    | some (low, high) => some (low, high.takeWhile (· != '\n'))
    | none => splitRange? rest

/-- Reads a number that is one. -/
def readNumber (chars : List Char) : Except MatcherError Float :=
  let text := String.ofList chars
  match Decimal.readFloat? (Text.trim text) with
  | some number => if number.isNaN then .error (.invalidValue text) else .ok number
  | none => .error (.invalidValue text)

/-- Reads an entry. -/
def read (entry : String) : Except MatcherError Expectation := do
  if !hasInnerDash entry.toList then return .exact (← readNumber entry.toList)
  match splitRange? entry.toList with
  | none => throw (.invalidValue entry)
  | some (lowText, highText) =>
    if hasInnerDash highText then throw (.invalidRange entry)
    let low ← readNumber lowText
    let high ← readNumber highText
    if high < low then throw (.invalidRange entry)
    return .range low high

/-- Whether a number is expected. -/
def accepts (expectation : Expectation) (number : Float) : Bool :=
  match expectation with
  | .exact expected => number == expected
  | .range low high => low ≤ number && number ≤ high

end Expectation

end Assay
