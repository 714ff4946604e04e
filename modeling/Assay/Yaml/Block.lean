import Assay.Yaml.Source

/-!
# Texts in blocks

A text in a block is made of the indented lines below its header. The header tells whether lines
are folded into each other, how far in they are, and what becomes of the line feeds at the end.
-/

namespace Assay.Yaml

/-- What becomes of the line feeds at the end of a block. -/
inductive Chomping where
  /-- All are dropped. -/
  | strip
  /-- The first one stays. -/
  | clip
  /-- All stay. -/
  | keep

/-- The header of a block. -/
structure BlockHeader where
  /-- The indentation relative to that around the block, if it is given. -/
  further : Option Nat
  /-- What becomes of the line feeds at the end. -/
  chomping : Chomping

/-- The header with the indentation that a digit gives. -/
def BlockHeader.indented? (header : BlockHeader) (digit : Char) : Option BlockHeader :=
  if Text.isDigit digit ∧ digit ≠ '0' then
    some { header with further := some (Text.digitValue digit) }
  else none

/-- The header with the chomping that a sign gives. -/
def BlockHeader.chomped? (header : BlockHeader) (sign : Char) : Option BlockHeader :=
  if sign = '-' then some { header with chomping := .strip }
  else if sign = '+' then some { header with chomping := .keep }
  else none

/-- The header that some characters start with, and its length. Digit and sign may come in either
order. -/
def readHeader (chars : List Char) : BlockHeader × Nat :=
  let plain : BlockHeader := ⟨none, .clip⟩
  match chars with
  | first :: rest =>
    match plain.indented? first, plain.chomped? first with
    | some header, _ =>
      match rest.head?.bind header.chomped? with
      | some both => (both, 2)
      | none => (header, 1)
    | none, some header =>
      match rest.head?.bind header.indented? with
      | some both => (both, 2)
      | none => (header, 1)
    | none, none => (plain, 0)
  | [] => (plain, 0)

/-- The lines of a block. -/
structure BlockLines where
  /-- The texts of the lines, without their indentation. -/
  texts : List (List Char)
  /-- The number of characters that the lines take. -/
  length : Nat
  /-- Whether the last line breaks off without a line feed. -/
  unclosed : Bool

/-- Whether a line has nothing but spaces. -/
def isSpaces (line : List Char) : Bool := line.all (· == ' ')

/-- Takes the lines that belong to a block of some indentation. The last piece has no line feed
after it. -/
def takeLines (indent : Nat) : List (List Char) → BlockLines
  | [] => ⟨[], 0, false⟩
  | [last] =>
    if last.isEmpty || isMarker last || (indentation last < indent && !isSpaces last) then
      ⟨[], 0, false⟩
    else ⟨[last.drop indent], last.length, true⟩
  | line :: lines =>
    if isMarker line || (indentation line < indent && !isSpaces line) then ⟨[], 0, false⟩
    else
      let below := takeLines indent lines
      { below with texts := line.drop indent :: below.texts
                   length := line.length + 1 + below.length }

/-- The indentation of a block whose header gives none: that of the first line that has more than
spaces. No line before it may be further in. -/
def detectIndent? (around : Int) (lines : List (List Char)) : Option Nat :=
  let before := (lines.takeWhile isSpaces).map List.length
  let widest := before.foldl max 0
  match lines.dropWhile isSpaces with
  | [] => some widest
  | first :: _ =>
    let found := indentation first
    if (found : Int) ≤ around || isMarker first then some (max widest (around + 1).toNat)
    else if found < widest then none
    else some found

/-- Joins lines with their line feeds. -/
def joinLiteral : List (List Char) → List Char
  | [] => []
  | [line] => line
  | line :: lines => line ++ '\n' :: joinLiteral lines

/-- Whether lines are folded at a line: it has text and does not start with a blank. -/
def isFoldable (line : List Char) : Bool :=
  match line with
  | [] => false
  | char :: _ => !isBlank char

/-- Joins lines after some text. Between two lines with text the first line feed is a blank, or is
dropped where empty lines follow; `pending` counts the line feeds since the last line with text,
which is foldable or not. -/
def joinFolded (foldable : Bool) (pending : Nat) : List (List Char) → List Char
  | [] => []
  | [] :: lines => joinFolded foldable (pending + 1) lines
  | line :: lines =>
    let between :=
      if foldable && isFoldable line then
        if pending = 1 then [' '] else List.replicate (pending - 1) '\n'
      else List.replicate pending '\n'
    between ++ line ++ joinFolded (isFoldable line) 1 lines

/-- The text of the lines of a block. -/
def BlockLines.text (lines : BlockLines) (folded : Bool) (chomping : Chomping) : List Char :=
  let content := (lines.texts.reverse.dropWhile List.isEmpty).reverse
  let ends := lines.texts.length - content.length + (if content.isEmpty then 0 else 1) -
    (if lines.unclosed then 1 else 0)
  let body := if folded then joinFolded false 0 content else joinLiteral content
  match chomping with
  | .strip => body
  | .clip => body ++ List.replicate (if content.isEmpty then 0 else min ends 1) '\n'
  | .keep => body ++ List.replicate ends '\n'

/-- Reads a text in a block from its mark on. The indentation is that around the block. -/
def Reader.block (around : Int) : Reader String := do
  let folded := (← Reader.ahead).head? == some '>'
  Reader.skip 1
  let (header, length) := readHeader (← Reader.ahead)
  Reader.skip length
  Reader.lineEnd
  Reader.skip (((← Reader.ahead).takeWhile (· != '\n')).length + 1)
  let lines := Text.splitBy (· == '\n') (← Reader.ahead)
  let indent ←
    match header.further with
    | some further => pure ((max around 0).toNat + further)
    | none =>
      match detectIndent? around lines with
      | some indent => pure indent
      | none => failure
  let taken := takeLines indent lines
  Reader.skip taken.length
  return String.ofList (taken.text folded header.chomping)

end Assay.Yaml
