/-!
# Text

Blank characters, digits, trimming, and the number of bytes that text takes in UTF-8. Positions in
an expression are counted in these bytes.
-/

namespace Assay.Text

/-- The characters with the Unicode property `White_Space`. -/
def isBlank (char : Char) : Bool :=
  let code := char.toNat
  (0x09 ≤ code && code ≤ 0x0D) || code == 0x20 || code == 0x85 || code == 0xA0 || code == 0x1680 ||
    (0x2000 ≤ code && code ≤ 0x200A) || code == 0x2028 || code == 0x2029 || code == 0x202F ||
    code == 0x205F || code == 0x3000

/-- The decimal digits of ASCII. -/
def isDigit (char : Char) : Bool := '0' ≤ char && char ≤ '9'

/-- The number that a digit stands for. -/
def digitValue (char : Char) : Nat := char.toNat - '0'.toNat

/-- The number that a run of digits stands for. -/
def numeral (digits : List Char) : Nat :=
  digits.foldl (fun value digit => 10 * value + digitValue digit) 0

/-- The value of a hexadecimal digit. -/
def hexDigit? (char : Char) : Option Nat :=
  if isDigit char then some (digitValue char)
  else if 'a' ≤ char ∧ char ≤ 'f' then some (char.toNat - 'a'.toNat + 10)
  else if 'A' ≤ char ∧ char ≤ 'F' then some (char.toNat - 'A'.toNat + 10)
  else none

/-- The value of hexadecimal digits. -/
def hexadecimal (digits : List Char) : Nat :=
  digits.foldl (fun value digit => 16 * value + (hexDigit? digit).getD 0) 0

/-- Letters, digits and the underscore of ASCII. -/
def isWordChar (char : Char) : Bool :=
  ('a' ≤ char && char ≤ 'z') || ('A' ≤ char && char ≤ 'Z') || isDigit char || char == '_'

/-- The words of keys and names start with a letter or an underscore. -/
def isWordStart (char : Char) : Bool := isWordChar char && !isDigit char

/-- A letter of ASCII in lower case; every other character as it is. -/
def lowerChar (char : Char) : Char :=
  if 'A' ≤ char ∧ char ≤ 'Z' then Char.ofNat (char.toNat + 32) else char

/-- Whether two texts agree when the letters of ASCII are taken in either case. -/
def sameLetters (left right : List Char) : Bool :=
  left.map lowerChar == right.map lowerChar

/-- Drops the characters at the end that satisfy a test. -/
def dropEnd (test : Char → Bool) (chars : List Char) : List Char :=
  (chars.reverse.dropWhile test).reverse

/-- Drops the blanks at both ends. -/
def trimChars (chars : List Char) : List Char :=
  dropEnd isBlank (chars.dropWhile isBlank)

/-- The text without the blanks at both ends. -/
def trim (text : String) : String := String.ofList (trimChars text.toList)

/-- The bytes that a run of characters takes in UTF-8. -/
def width : List Char → Nat
  | [] => 0
  | head :: tail => head.utf8Size + width tail

@[simp]
theorem width_nil : width [] = 0 := rfl

@[simp]
theorem width_cons (head : Char) (tail : List Char) :
    width (head :: tail) = head.utf8Size + width tail := rfl

@[simp]
theorem width_append (left right : List Char) :
    width (left ++ right) = width left + width right := by
  induction left with
  | nil => simp
  | cons head tail ih => simp [ih, Nat.add_assoc]

/-- The pieces between the characters that satisfy a test; there is always at least one. -/
def splitBy (test : Char → Bool) : List Char → List (List Char)
  | [] => [[]]
  | char :: rest =>
    if test char then [] :: splitBy test rest
    else
      match splitBy test rest with
      | [] => [[char]]
      | piece :: pieces => (char :: piece) :: pieces

/-- The lines of a text. A line ends at a newline, before which a carriage return is dropped, and
a newline at the very end starts no further line. -/
def lines (text : String) : List String :=
  let pieces := splitBy (· == '\n') text.toList
  let pieces := if pieces.getLast? = some [] then pieces.dropLast else pieces
  pieces.map fun piece =>
    String.ofList (if piece.getLast? = some '\r' then piece.dropLast else piece)

end Assay.Text
