import Assay.Yaml.Node

/-!
# The text of a YAML stream

A stream is read from left to right as characters with line feeds between lines. What separates
its parts are blanks, comments and line feeds; the number of spaces at the start of a line is its
indentation.
-/

namespace Assay.Yaml

/-- A place in a stream. -/
structure Source where
  /-- The characters from there on. -/
  rest : List Char
  /-- The number of characters before the place on its line. -/
  column : Nat
  /-- The number of lines before that of the place. -/
  line : Nat
  /-- The nodes named so far, the latest one first. -/
  anchors : List (String × Node)
  /-- The handles that tags may start with. -/
  handles : List String

/-- A part that is read from a place on, with the place after it, if it is there. -/
abbrev Reader (α : Type) : Type := StateT Source Option α

/-- Blanks within a line. -/
def isBlank (char : Char) : Bool := char == ' ' || char == '\t'

/-- Whether some characters start with a blank or a line feed, or there are none. -/
def startsBlank : List Char → Bool
  | [] => true
  | char :: _ => isBlank char || char == '\n'

/-- Whether a line is one of those that separate documents. -/
def isMarker (line : List Char) : Bool :=
  match line with
  | '-' :: '-' :: '-' :: rest => startsBlank rest
  | '.' :: '.' :: '.' :: rest => startsBlank rest
  | _ => false

/-- The number of spaces that some characters start with. -/
def indentation (chars : List Char) : Nat := (chars.takeWhile (· == ' ')).length

/-- Whether nothing but blanks is left of a line. -/
def isBlankLine (chars : List Char) : Bool :=
  match chars.dropWhile isBlank with
  | [] => true
  | char :: _ => char == '\n'

/-- The characters that a stream may hold. -/
def isPrintable (char : Char) : Bool :=
  let code := char.toNat
  code == 0x09 || code == 0x0A || (0x20 ≤ code && code ≤ 0x7E) || code == 0x85 ||
    (0xA0 ≤ code && code ≤ 0xFFFD) || 0x10000 ≤ code

/-- Ends every line by a line feed alone, whatever ended it before. -/
def lineFeeds : List Char → List Char
  | [] => []
  | '\r' :: '\n' :: rest => '\n' :: lineFeeds rest
  | '\r' :: rest => '\n' :: lineFeeds rest
  | char :: rest => char :: lineFeeds rest

namespace Source

/-- The place after a character. -/
def step (source : Source) (char : Char) (rest : List Char) : Source :=
  if char = '\n' then { source with rest, column := 0, line := source.line + 1 }
  else { source with rest, column := source.column + 1 }

/-- The place after some characters. -/
def dropFrom (source : Source) : Nat → List Char → Source
  | 0, _ => source
  | _, [] => source
  | count + 1, char :: rest => (source.step char rest).dropFrom count rest

/-- The place so many characters further on. -/
def drop (source : Source) (count : Nat) : Source := source.dropFrom count source.rest

/-- The place where some characters, which end the stream, are left. -/
def toRest (source : Source) (rest : List Char) : Source :=
  source.drop (source.rest.length - rest.length)

end Source

/-- What separates two parts of a stream. -/
structure Gap where
  /-- The place after it. -/
  after : Source
  /-- Whether it has a line feed. -/
  crossed : Bool
  /-- Whether it is not empty. -/
  wide : Bool
  /-- Whether a tab stands on the line where it ends. -/
  tabbed : Bool
  /-- Whether it breaks off inside a comment. -/
  inComment : Bool

namespace Gap

/-- A gap with one more character, a comment that starts there included. It is not changed by a
character that separates nothing. -/
def extend? (gap : Gap) (char : Char) (rest : List Char) : Option Gap :=
  let after := gap.after.step char rest
  if char = '\n' then some ⟨after, true, true, false, false⟩
  else if gap.inComment then some { gap with after }
  else if char = ' ' then some { gap with after, wide := true }
  else if char = '\t' then some { gap with after, wide := true, tabbed := true }
  else if char = '#' ∧ (gap.wide ∨ gap.after.column = 0) then
    some { gap with after, wide := true, inComment := true }
  else none

/-- Extends a gap as far as it goes. -/
def extendOver (gap : Gap) : List Char → Gap
  | [] => gap
  | char :: rest =>
    match gap.extend? char rest with
    | some longer => longer.extendOver rest
    | none => gap

end Gap

namespace Source

/-- The gap that starts at a place. -/
def gap (source : Source) : Gap := Gap.extendOver ⟨source, false, false, false, false⟩ source.rest

/-- Whether a place is at the end of the stream or at a line that separates documents. -/
def atEnd (source : Source) : Bool :=
  source.rest.isEmpty || (source.column == 0 && isMarker source.rest)

end Source

namespace Reader

/-- The characters from the place on. -/
def ahead : Reader (List Char) := return (← get).rest

/-- Reads on after so many characters. -/
def skip (count : Nat) : Reader Unit := modify fun source => source.drop count

/-- Reads a certain character. -/
def expect (char : Char) : Reader Unit := do
  if (← ahead).head? = some char then skip 1 else failure

/-- Skips the blanks of the line. -/
def skipBlanks : Reader Unit := do
  skip ((← ahead).takeWhile isBlank).length

/-- Reads what may follow a part at the end of a line. -/
def lineEnd : Reader Unit := do
  let gap := (← get).gap
  if gap.crossed || gap.after.rest.isEmpty then return else failure

/-- Skips a gap inside brackets, where every line is further in than the given indentation. -/
def skipGap (indent : Int) : Reader Unit := do
  let gap := (← get).gap
  if gap.crossed && !gap.after.rest.isEmpty then
    if gap.after.atEnd || (gap.after.column : Int) ≤ indent then failure
  set gap.after

end Reader

end Assay.Yaml
