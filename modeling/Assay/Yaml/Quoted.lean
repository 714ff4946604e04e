import Assay.Yaml.Source

/-!
# Texts in quotes

A text in quotes may go on over several lines. The blanks around a line feed in it are dropped; a
single line feed stands for a blank, and of several every one but the first stands for itself.
-/

namespace Assay.Yaml

/-- A part of a text in quotes. -/
inductive Piece where
  /-- A character that stands for itself or is escaped. -/
  | char (char : Char)
  /-- A blank that is not escaped. -/
  | blank (char : Char)
  /-- A line feed. -/
  | lineFeed
  /-- A line feed that is escaped. -/
  | joined

/-- What is pending between two characters of a text in quotes. -/
inductive Pending where
  /-- Blanks on one line. -/
  | blanks (chars : List Char)
  /-- Line feeds, which fold into a blank unless the first of them is escaped. -/
  | lineFeeds (count : Nat) (joined : Bool)

/-- What some line feeds without escape stand for. -/
def foldedLineFeeds (count : Nat) : List Char :=
  if count = 1 then [' '] else List.replicate (count - 1) '\n'

/-- The characters that what is pending stands for. -/
def Pending.chars : Pending → List Char
  | .blanks chars => chars
  | .lineFeeds count joined =>
    if joined then List.replicate count '\n' else foldedLineFeeds count

/-- The characters that the pieces of a text stand for after what is pending. -/
def unfold : Pending → List Piece → List Char
  | pending, [] => pending.chars
  | pending, .char char :: pieces => pending.chars ++ char :: unfold (.blanks []) pieces
  | .blanks chars, .blank char :: pieces => unfold (.blanks (chars ++ [char])) pieces
  | .lineFeeds count joined, .blank _ :: pieces => unfold (.lineFeeds count joined) pieces
  | .blanks _, .lineFeed :: pieces => unfold (.lineFeeds 1 false) pieces
  | .lineFeeds count joined, .lineFeed :: pieces => unfold (.lineFeeds (count + 1) joined) pieces
  | pending, .joined :: pieces => pending.chars ++ unfold (.lineFeeds 0 true) pieces

/-- Whether a text may go on in a line: one that is blank, or is further in than the given
indentation and separates no documents. -/
def continues (indent : Int) (line : List Char) : Bool :=
  isBlankLine line || (indent < indentation line && !isMarker line)

/-- The piece of a character without escape. -/
def Piece.ofChar (char : Char) : Piece := if isBlank char then .blank char else .char char

/-- Puts a piece before those that were read after it. -/
def Piece.before (piece : Piece) (read : Option (List Piece × List Char)) :
    Option (List Piece × List Char) :=
  read.map fun (pieces, rest) => (piece :: pieces, rest)

/-- Reads a text after its opening single quote. A quote that is written twice is part of it. -/
def singleQuoted? (indent : Int) : List Char → Option (List Piece × List Char)
  | [] => none
  | '\'' :: '\'' :: rest => (Piece.char '\'').before (singleQuoted? indent rest)
  | '\'' :: rest => some ([], rest)
  | '\n' :: rest =>
    if continues indent rest then Piece.lineFeed.before (singleQuoted? indent rest) else none
  | char :: rest => (Piece.ofChar char).before (singleQuoted? indent rest)

/-- The character that an escaped letter stands for. -/
def escapedLetter? : Char → Option Char
  | '0' => some '\x00'
  | 'a' => some '\x07'
  | 'b' => some '\x08'
  | 't' => some '\t'
  | '\t' => some '\t'
  | 'n' => some '\n'
  | 'v' => some '\x0b'
  | 'f' => some '\x0c'
  | 'r' => some '\r'
  | 'e' => some '\x1b'
  | ' ' => some ' '
  | '"' => some '"'
  | '/' => some '/'
  | '\\' => some '\\'
  | 'N' => some '\u0085'
  | '_' => some '\u00a0'
  | 'L' => some '\u2028'
  | 'P' => some '\u2029'
  | _ => none

/-- The number of hexadecimal digits that follow an escaped letter. -/
def escapeDigits : Char → Nat
  | 'x' => 2
  | 'u' => 4
  | 'U' => 8
  | _ => 0

/-- The character of a code point in hexadecimal digits. -/
def codePoint? (digits : List Char) (count : Nat) : Option Char :=
  let code := Text.hexadecimal digits
  if digits.length = count ∧ (digits.all fun digit => (Text.hexDigit? digit).isSome) ∧
      code.isValidChar then
    some (Char.ofNat code)
  else none

/-- The character of an escape: its letter and the digits that follow. -/
def escape? (letter : Char) (rest : List Char) : Option Char :=
  let count := escapeDigits letter
  if count = 0 then escapedLetter? letter else codePoint? (rest.take count) count

/-- Reads a text after its opening double quote. -/
def doubleQuoted? (indent : Int) : List Char → Option (List Piece × List Char)
  | [] => none
  | '"' :: rest => some ([], rest)
  | '\\' :: '\n' :: rest =>
    if continues indent rest then Piece.joined.before (doubleQuoted? indent rest) else none
  | '\\' :: letter :: rest =>
    match escape? letter rest with
    | some char =>
      (Piece.char char).before (doubleQuoted? indent (rest.drop (escapeDigits letter)))
    | none => none
  | '\n' :: rest =>
    if continues indent rest then Piece.lineFeed.before (doubleQuoted? indent rest) else none
  | char :: rest => (Piece.ofChar char).before (doubleQuoted? indent rest)
termination_by chars => chars.length
decreasing_by
  all_goals
    simp only [List.length_cons, List.length_drop]
    omega

/-- Reads on after a text in quotes, whose pieces and remaining characters are given. -/
def Reader.quoted (read : Option (List Piece × List Char)) : Reader String := do
  let some (pieces, rest) := read | failure
  modify fun source => source.toRest rest
  return String.ofList (unfold (.blanks []) pieces)

end Assay.Yaml
