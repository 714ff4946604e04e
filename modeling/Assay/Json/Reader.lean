import Assay.Json

/-!
# Reading JSON text

The grammar of JSON, read from left to right. Numbers are read as literals and are not yet given
a value.
-/

namespace Assay.Json

/-- The characters that separate the parts of a document. -/
def isSpace (char : Char) : Bool := char == ' ' || char == '\t' || char == '\n' || char == '\r'

/-- Four hexadecimal digits as a code unit. -/
def codeUnit? (digits : List Char) : Option Nat :=
  if digits.all fun digit => (Text.hexDigit? digit).isSome then
    some (Text.hexadecimal digits)
  else none

/-- The character of an escaped letter. -/
def unescape? : Char → Option Char
  | '"' => some '"'
  | '\\' => some '\\'
  | '/' => some '/'
  | 'b' => some '\x08'
  | 'f' => some '\x0c'
  | 'n' => some '\n'
  | 'r' => some '\r'
  | 't' => some '\t'
  | _ => none

/-- A text in which a character, if it is one, comes before what was read after it. -/
def before (char : Option Char) :
    Option (Option (List Char) × List Char) → Option (Option (List Char) × List Char) :=
  Option.map fun (content, rest) =>
    (match char, content with
      | some char, some chars => some (char :: chars)
      | _, _ => none, rest)

/-- Whether a code unit is the first half of a pair. -/
def isFirstHalf (unit : Nat) : Bool := 0xD800 ≤ unit && unit < 0xDC00

/-- Whether a code unit is the second half of a pair. -/
def isSecondHalf (unit : Nat) : Bool := 0xDC00 ≤ unit && unit < 0xE000

/-- The second half of a pair, escaped in the first six characters of a text. -/
def secondHalf? : List Char → Option Nat
  | '\\' :: 'u' :: a :: b :: c :: d :: _ => (codeUnit? [a, b, c, d]).filter isSecondHalf
  | _ => none

/-- The character of both halves of a pair. -/
def pairChar (first second : Nat) : Char :=
  Char.ofNat (0x10000 + (first - 0xD800) * 0x400 + (second - 0xDC00))

/-- Reads a text after its opening quote. The content is missing when a code unit in it is half of
a pair. -/
def quoted? : List Char → Option (Option (List Char) × List Char)
  | [] => none
  | '"' :: rest => some (some [], rest)
  | '\\' :: 'u' :: a :: b :: c :: d :: rest =>
    match codeUnit? [a, b, c, d] with
    | none => none
    | some unit =>
      if isFirstHalf unit then
        match secondHalf? rest with
        | some second => before (some (pairChar unit second)) (quoted? (rest.drop 6))
        | none => before none (quoted? rest)
      else if isSecondHalf unit then before none (quoted? rest)
      else before (some (Char.ofNat unit)) (quoted? rest)
  | '\\' :: letter :: rest =>
    match unescape? letter with
    | some char => before (some char) (quoted? rest)
    | none => none
  | char :: rest => if char.toNat < 0x20 then none else before (some char) (quoted? rest)
termination_by chars => chars.length
decreasing_by
  all_goals
    simp only [List.length_cons, List.length_drop]
    omega

/-- Reads at least one digit. -/
def digits? (chars : List Char) : Option (List Char × List Char) :=
  match chars.takeWhile Text.isDigit with
  | [] => none
  | digits => some (digits, chars.dropWhile Text.isDigit)

/-- Reads the whole part of a number: a zero alone, or digits that start with another one. -/
def wholePart? (chars : List Char) : Option (List Char × List Char) :=
  match digits? chars with
  | some ('0' :: _ :: _, _) => none
  | read => read

/-- Reads a fraction, if there is a point. -/
def fraction? : List Char → Option (List Char × List Char)
  | '.' :: rest => (digits? rest).map fun (digits, after) => ('.' :: digits, after)
  | rest => some ([], rest)

/-- Reads an exponent, if there is a mark. -/
def exponent? : List Char → Option (List Char × List Char)
  | [] => some ([], [])
  | mark :: rest =>
    if mark = 'e' ∨ mark = 'E' then
      match rest with
      | sign :: more =>
        if sign = '+' ∨ sign = '-' then
          (digits? more).map fun (digits, after) => (mark :: sign :: digits, after)
        else (digits? rest).map fun (digits, after) => (mark :: digits, after)
      | [] => none
    else some ([], mark :: rest)

/-- Reads the literal of a number. -/
def literal? (chars : List Char) : Option (List Char × List Char) := do
  let (sign, rest) :=
    match chars with
    | '-' :: rest => (['-'], rest)
    | rest => ([], rest)
  let (whole, rest) ← wholePart? rest
  let (fraction, rest) ← fraction? rest
  let (exponent, rest) ← exponent? rest
  return (sign ++ whole ++ fraction ++ exponent, rest)

/-- Drops the separating characters at the front. -/
def skipSpace (chars : List Char) : List Char := chars.dropWhile isSpace

mutual

/-- Reads a document. Every step takes a character. -/
def document? : Nat → List Char → Option (Json × List Char)
  | 0, _ => none
  | limit + 1, chars =>
    match skipSpace chars with
    | 'n' :: 'u' :: 'l' :: 'l' :: rest => some (.null, rest)
    | 't' :: 'r' :: 'u' :: 'e' :: rest => some (.bool true, rest)
    | 'f' :: 'a' :: 'l' :: 's' :: 'e' :: rest => some (.bool false, rest)
    | '"' :: rest =>
      (quoted? rest).map fun (content, after) => (.text (content.map String.ofList), after)
    | '[' :: rest =>
      match skipSpace rest with
      | ']' :: after => some (.array [], after)
      | rest => (items? limit rest).map fun (items, after) => (.array items, after)
    | '\x7b' :: rest =>
      match skipSpace rest with
      | '\x7d' :: after => some (.object [], after)
      | rest => (members? limit rest).map fun (members, after) => (.object members, after)
    | rest => (literal? rest).map fun (literal, after) => (.number literal, after)

/-- Reads the items of an array up to its end. -/
def items? : Nat → List Char → Option (List Json × List Char)
  | 0, _ => none
  | limit + 1, chars => do
    let (item, rest) ← document? limit chars
    match skipSpace rest with
    | ',' :: rest => do
      let (items, after) ← items? limit rest
      return (item :: items, after)
    | ']' :: after => return ([item], after)
    | _ => none

/-- Reads the members of an object up to its end. -/
def members? : Nat → List Char → Option (List (Option String × Json) × List Char)
  | 0, _ => none
  | limit + 1, chars =>
    match skipSpace chars with
    | '"' :: rest => do
      let (content, rest) ← quoted? rest
      let key := content.map String.ofList
      match skipSpace rest with
      | ':' :: rest => do
        let (value, rest) ← document? limit rest
        match skipSpace rest with
        | ',' :: rest => do
          let (members, after) ← members? limit rest
          return ((key, value) :: members, after)
        | '\x7d' :: after => return ([(key, value)], after)
        | _ => none
      | _ => none
    | _ => none

end

/-- Reads a text that is one document. -/
def read? (text : String) : Option Json :=
  match document? (2 * text.toList.length + 2) text.toList with
  | some (document, rest) => if (skipSpace rest).isEmpty then some document else none
  | none => none

end Assay.Json
