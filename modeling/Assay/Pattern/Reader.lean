import Assay.Pattern.Class
import Assay.Pattern.Footprint

/-!
# Reading patterns

The text of a pattern is read part by part, with a stack of the groups that are open. Letters in a
group `(?...)` change how the rest of the enclosing group is read. A text that names anything a
pattern cannot do, such as looking around or referring back, is no pattern.
-/

namespace Assay.Pattern

/-- A part of a pattern with the depth of the parts in it. -/
structure Part where
  /-- What it fits. -/
  pattern : Pattern
  /-- How deep groups, classes, repetitions, choices and sequences are nested in it. -/
  depth : Nat
  /-- Whether a repetition may follow. -/
  repeatable : Bool

/-- The greatest depth of a usable pattern. -/
def maxDepth : Nat := 250

/-- A group that has been opened and not yet closed. -/
structure OpenGroup where
  /-- The number of the group, if it has one. -/
  number : Option Nat
  /-- How the text around the group is read. -/
  flags : Flags
  /-- The branches of the enclosing group before the current one, last first. -/
  branches : List Part
  /-- The parts of the enclosing group's current branch, last first. -/
  parts : List Part

/-- What has been read of a pattern. -/
structure Progress where
  /-- How the text is read on. -/
  flags : Flags
  /-- The groups that are open, innermost first. -/
  groups : List OpenGroup
  /-- The branches of the current group before the current one, last first. -/
  branches : List Part
  /-- The parts of the current branch, last first. -/
  parts : List Part
  /-- The number of groups with a number so far. -/
  count : Nat
  /-- The names of groups so far. -/
  names : List String

namespace Progress

/-- The parts of the current branch as one part. -/
def branch (progress : Progress) : Part :=
  let parts := progress.parts.reverse
  let deepest := (parts.map Part.depth).foldl max 0
  let depth := if parts.length ≤ 1 then deepest else deepest + 1
  ⟨ofSequence (parts.map Part.pattern), depth, true⟩

/-- The branches of the current group as one part. -/
def whole (progress : Progress) : Part :=
  let branches := (progress.branch :: progress.branches).reverse
  let deepest := (branches.map Part.depth).foldl max 0
  let depth := if branches.length ≤ 1 then deepest else deepest + 1
  ⟨ofChoice (branches.map Part.pattern), depth, true⟩

/-- Adds a part to the current branch. -/
def add (progress : Progress) (pattern : Pattern) (depth : Nat) : Progress :=
  { progress with parts := ⟨pattern, depth, true⟩ :: progress.parts }

/-- Ends the current branch and starts another one. -/
def alternate (progress : Progress) : Progress :=
  { progress with branches := progress.branch :: progress.branches, parts := [] }

/-- Opens a group, with or without a number, that is read in the given way. -/
def openGroup (progress : Progress) (numbered : Bool) (flags : Flags) : Progress :=
  let number := if numbered then some (progress.count + 1) else none
  { progress with
    flags
    groups := ⟨number, progress.flags, progress.branches, progress.parts⟩ :: progress.groups
    branches := []
    parts := []
    count := if numbered then progress.count + 1 else progress.count }

/-- Closes the innermost group. -/
def closeGroup? (progress : Progress) : Option Progress :=
  match progress.groups with
  | [] => none
  | opened :: groups =>
    let whole := progress.whole
    let pattern :=
      match opened.number with
      | some number => .group number whole.pattern
      | none => whole.pattern
    some
      { progress with
        flags := opened.flags
        groups
        branches := opened.branches
        parts := ⟨pattern, whole.depth + 1, true⟩ :: opened.parts }

/-- Reads the rest of the enclosing group in the given way. -/
def setFlags (progress : Progress) (flags : Flags) : Progress :=
  { progress with flags, parts := ⟨.empty, 0, false⟩ :: progress.parts }

/-- Repeats the last part of the current branch. -/
def repeat? (progress : Progress) (least : Nat) (greatest : Option Nat) (greedy : Bool) :
    Option Progress :=
  match progress.parts with
  | [] => none
  | last :: before =>
    if last.repeatable then
      let pattern := repeated last.pattern least greatest (greedy != progress.flags.lazy)
      some { progress with parts := ⟨pattern, last.depth + 1, true⟩ :: before }
    else none

end Progress

/-- Reads the mark that makes a repetition stop rather than go on. -/
def greediness : List Char → Bool × List Char
  | '?' :: rest => (false, rest)
  | rest => (true, rest)

/-- The greatest count of a repetition. -/
def maxCount : Nat := Nat.pow 2 32 - 1

/-- Reads a count with blanks around it. -/
def count? (flags : Flags) (chars : List Char) : Option Nat × List Char :=
  let rec digits : Nat → List Char → List Char × List Char
    | 0, chars => ([], chars)
    | limit + 1, chars =>
      match chars with
      | [] => ([], [])
      | char :: rest =>
        if Text.isDigit char then
          let (more, after) := digits limit (skip flags rest)
          (char :: more, after)
        else ([], chars)
  let chars := chars.dropWhile Text.isBlank
  let (read, after) := digits chars.length chars
  let after := skip flags (after.dropWhile Text.isBlank)
  let number := Text.numeral read
  (if read.isEmpty || maxCount < number then none else some number, after)

/-- Reads the counts of a repetition after its opening brace: the least, the greatest if there is
one, and the characters after the closing brace. -/
def counts? (flags : Flags) (chars : List Char) :
    Option (Nat × Option Nat × List Char) := do
  let (least, after) := count? flags (skip flags chars)
  match after with
  | '\x7d' :: rest => do
    let count ← least
    return (count, some count, rest)
  | ',' :: rest =>
    match skip flags rest with
    | '\x7d' :: rest => do
      return (← least, none, rest)
    | rest => do
      let least ← least
      match count? flags rest with
      | (some greatest, '\x7d' :: rest) =>
        if least ≤ greatest then return (least, some greatest, rest) else none
      | _ => none
  | _ => none

/-- Sets the way of reading that a letter stands for. -/
def Flags.set? (flags : Flags) (letter : Char) (on : Bool) : Option Flags :=
  match letter with
  | 'i' => some { flags with ignoreCase := on }
  | 'm' => some { flags with multiLine := on }
  | 's' => some { flags with dotAll := on }
  | 'U' => some { flags with lazy := on }
  | 'u' => some { flags with unicode := on }
  | 'R' => some { flags with returns := on }
  | 'x' => some { flags with spaced := on }
  | _ => none

/-- Reads the letters of a group, each at most once, and the mark after them: a colon or a closing
parenthesis. A dash turns off what the letters after it stand for. -/
def letters? (flags : Flags) (seen : List Char) (on : Bool) :
    List Char → Option (Flags × List Char × Char × List Char)
  | [] => none
  | char :: rest =>
    if char = ':' ∨ char = ')' then
      if seen.head? = some '-' then none else some (flags, seen, char, rest)
    else if seen.contains char then none
    else if char = '-' then letters? flags (char :: seen) false rest
    else
      match flags.set? char on with
      | some flags => letters? flags (char :: seen) on rest
      | none => none

/-- Whether a text may name a group. -/
def isGroupName (name : List Char) : Bool :=
  let starts (char : Char) := char == '_' || DerivedProperty.alphabetic.chars.holds char
  let goesOn (char : Char) :=
    starts char || char == '.' || char == '[' || char == ']' ||
      (Category.charsOf Category.numbers).holds char
  match name with
  | [] => false
  | first :: rest => starts first && rest.all goesOn

/-- Opens the group after its parenthesis. -/
def group? (progress : Progress) (chars : List Char) : Option (Progress × List Char) :=
  let named (rest : List Char) : Option (Progress × List Char) := do
    let (name, after) ← splitFirst? (· == '>') rest
    let text := String.ofList name
    if isGroupName name && !progress.names.contains text then
      return ({ progress.openGroup true progress.flags with names := text :: progress.names }, after)
    else none
  match skip progress.flags chars with
  | '?' :: '=' :: _ | '?' :: '!' :: _ | '?' :: '<' :: '=' :: _ | '?' :: '<' :: '!' :: _ => none
  | '?' :: 'P' :: '<' :: rest => named rest
  | '?' :: '<' :: rest => named rest
  | '?' :: rest => do
    let (flags, seen, mark, after) ← letters? progress.flags [] true rest
    if mark = ':' then return (progress.openGroup false flags, after)
    else if seen.isEmpty then none
    else return (progress.setFlags flags, after)
  | rest => some (progress.openGroup true progress.flags, rest)

/-- The pattern of the point. -/
def dot? (flags : Flags) : Option Pattern :=
  if !flags.unicode then none
  else if flags.dotAll then some (.set .all)
  else if flags.returns then some (.set (CharSet.ofText ["a d"]).complement)
  else some (.set (CharSet.single '\n').complement)

/-- The pattern of an escape or a plain character. Outside Unicode only letters of ASCII have a
case. -/
def primitive? (flags : Flags) : Primitive → Option Pattern
  | .literal char => some (.set (fold flags (.single char)))
  | .set chars => some (.set chars)
  | .anchor condition => some (.anchor condition)
  | .byte => none

/-- The condition of `^`. -/
def startAnchor (flags : Flags) : Anchor :=
  if !flags.multiLine then .textStart
  else if flags.returns then .returnLineStart
  else .lineStart

/-- The condition of `$`. -/
def endAnchor (flags : Flags) : Anchor :=
  if !flags.multiLine then .textEnd
  else if flags.returns then .returnLineEnd
  else .lineEnd

/-- Reads one part of a pattern that starts with the given character. -/
def step? (progress : Progress) (char : Char) (rest : List Char) :
    Option (Progress × List Char) :=
  let flags := progress.flags
  let repetition (least : Nat) (greatest : Option Nat) :=
    let (greedy, after) := greediness rest
    (progress.repeat? least greatest greedy).map fun progress => (progress, after)
  let plain (pattern : Option Pattern) := pattern.map fun pattern => (progress.add pattern 0, rest)
  match char with
  | '(' => group? progress rest
  | ')' => progress.closeGroup?.map fun progress => (progress, rest)
  | '|' => some (progress.alternate, rest)
  | '[' =>
    (class? flags rest).map fun (part, after) =>
      (progress.add (.set part.chars) part.depth, after)
  | '?' => repetition 0 (some 1)
  | '*' => repetition 0 none
  | '+' => repetition 1 none
  | '\x7b' => do
    let (least, greatest, after) ← counts? flags rest
    let (greedy, after) := greediness (skip flags after)
    let progress ← progress.repeat? least greatest greedy
    return (progress, after)
  | '\\' => do
    let (primitive, after) ← escape? flags rest
    let pattern ← primitive? flags primitive
    return (progress.add pattern 0, after)
  | '.' => plain (dot? flags)
  | '^' => plain (some (.anchor (startAnchor flags)))
  | '$' => plain (some (.anchor (endAnchor flags)))
  | char => plain (primitive? flags (.literal char))

/-- Reads on part by part up to the end. Every step takes a character. -/
def readFrom? : Nat → Progress → List Char → Option Pattern
  | 0, _, _ => none
  | limit + 1, progress, chars =>
    match skip progress.flags chars with
    | [] =>
      if progress.groups.isEmpty then
        let whole := progress.whole
        if whole.depth ≤ maxDepth && whole.pattern.isSmall then some whole.pattern else none
      else none
    | char :: rest =>
      match step? progress char rest with
      | some (progress, after) => readFrom? limit progress after
      | none => none

/-- Reads the text of a pattern. -/
def read? (text : String) : Option Pattern :=
  readFrom? (text.toList.length + 1) ⟨{}, [], [], [], 0, []⟩ text.toList

end Assay.Pattern
