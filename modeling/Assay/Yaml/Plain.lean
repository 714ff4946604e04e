import Assay.Yaml.Quoted

/-!
# Plain texts

A text without quotes ends where a character or a line would have another meaning: at a colon or a
comment after a blank, at the brackets and commas inside a bracket, and at a line that is not
further in than what is around the text. It folds over lines as a text in quotes does.
-/

namespace Assay.Yaml

/-- The characters that part the entries inside brackets. -/
def isFlowIndicator (char : Char) : Bool := [',', '[', ']', '\x7b', '\x7d'].contains char

/-- The characters with which no plain text starts, save for some of them before a text. -/
def isIndicator (char : Char) : Bool :=
  isFlowIndicator char || "-?:#&*!|>'\"%@\x60".toList.contains char

/-- Whether a colon, a dash or a question mark before some characters is an indicator. Inside
brackets it is one before a bracket or a comma as well. -/
def endsIndicator (flow : Bool) (chars : List Char) : Bool :=
  startsBlank chars || (flow && (chars.head?.any isFlowIndicator))

/-- Whether some characters start with a plain text. -/
def startsPlain (flow : Bool) : List Char → Bool
  | [] => false
  | char :: rest =>
    if ['-', '?', ':'].contains char then !endsIndicator flow rest
    else !isIndicator char && !isBlank char && char != '\n'

/-- The characters of a line that a plain text may have, blanks at the end included. -/
def plainRun (flow afterBlank : Bool) : List Char → List Char
  | [] => []
  | char :: rest =>
    if char = '\n' then []
    else if isBlank char then char :: plainRun flow true rest
    else if flow && isFlowIndicator char then []
    else if char = '#' && afterBlank then []
    else if char = ':' && endsIndicator flow rest then []
    else char :: plainRun flow false rest

/-- The characters of a plain text on one line. -/
def plainLine (flow afterBlank : Bool) (chars : List Char) : List Char :=
  Text.dropEnd isBlank (plainRun flow afterBlank chars)

/-- Counts line feeds over blank lines, and finds the line that follows them. -/
def skipBlankLines (count : Nat) (line : List Char) : List Char → Nat × List Char
  | [] => (count, line)
  | char :: rest =>
    if char = '\n' then skipBlankLines (count + 1) rest rest
    else if isBlank char then skipBlankLines count line rest
    else (count, line)

/-- What a plain text has on further lines, and what is left after it. -/
def plainBelow (flow : Bool) (indent : Int) : Nat → List Char → List Char × List Char
  | 0, chars => ([], chars)
  | limit + 1, chars =>
    let below := chars.dropWhile isBlank
    let (count, line) := skipBlankLines 0 below below
    let inside := line.dropWhile isBlank
    let text := plainLine flow true inside
    if count = 0 || !continues indent line || text.isEmpty then ([], chars)
    else
      let (more, rest) := plainBelow flow indent limit (inside.drop text.length)
      (foldedLineFeeds count ++ text ++ more, rest)

/-- Reads a plain text, on one line or on several. -/
def Reader.plain (flow oneLine : Bool) (indent : Int) : Reader String := do
  let chars ← Reader.ahead
  let first := plainLine flow false chars
  let after := chars.drop first.length
  let (more, rest) := if oneLine then ([], after) else plainBelow flow indent chars.length after
  modify fun source => source.toRest rest
  return String.ofList (first ++ more)

end Assay.Yaml
