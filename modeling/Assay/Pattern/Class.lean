import Assay.Pattern.Property.Name
import Assay.Pattern.Tree

/-!
# Reading escapes and character classes

The parts of a pattern's text that describe one character or a condition on a place: escapes after
a backslash, and classes in brackets with ranges, nested classes and set operations.
-/

namespace Assay.Pattern

/-- How the text of a pattern is read. -/
structure Flags where
  /-- Letters stand for both cases. -/
  ignoreCase : Bool := false
  /-- `^` and `$` hold at every line. -/
  multiLine : Bool := false
  /-- The point stands for a newline too. -/
  dotAll : Bool := false
  /-- Repetitions stop rather than go on. -/
  lazy : Bool := false
  /-- Classes hold characters beyond ASCII. -/
  unicode : Bool := true
  /-- Carriage returns end lines. -/
  returns : Bool := false
  /-- Blanks and comments between the parts mean nothing. -/
  spaced : Bool := false
  deriving DecidableEq, Repr

/-- Drops the characters up to a newline and the newline. -/
def dropComment : List Char → List Char
  | [] => []
  | char :: rest => if char = '\n' then rest else dropComment rest

theorem length_dropComment_le (chars : List Char) :
    (dropComment chars).length ≤ chars.length := by
  induction chars with
  | nil => simp [dropComment]
  | cons char rest ih =>
    simp only [dropComment]
    split
    · simp
    · simp only [List.length_cons]
      omega

/-- Drops the blanks and comments at the front where they mean nothing. -/
def skip (flags : Flags) : List Char → List Char
  | [] => []
  | char :: rest =>
    if flags.spaced && Text.isBlank char then skip flags rest
    else if flags.spaced && char == '#' then skip flags (dropComment rest)
    else char :: rest
termination_by chars => chars.length
decreasing_by
  · simp
  · have := length_dropComment_le rest
    simp only [List.length_cons]
    omega

/-- What an escape or a plain character stands for. -/
inductive Primitive where
  /-- A character. -/
  | literal (char : Char)
  /-- A byte that is no character of its own. -/
  | byte
  /-- One of a set of characters. -/
  | set (chars : CharSet)
  /-- A condition on a place. -/
  | anchor (condition : Anchor)

/-- The characters that mean something unless they are escaped. -/
def isMeta (char : Char) : Bool := "\\.+*?()|[]\x7b\x7d^$#&-~".toList.contains char

/-- Whether a character may be escaped to stand for itself. -/
def isEscapable (char : Char) : Bool :=
  isMeta char ||
    (char.toNat < 0x80 &&
      !(Text.isWordStart char && char != '_' || Text.isDigit char || char == '<' || char == '>'))

/-- The character of a code point, if it is one. -/
def charOfCode? (code : Nat) : Option Char :=
  if code.isValidChar then some (Char.ofNat code) else none

/-- Reads a number of hexadecimal digits. -/
def hexDigits? (flags : Flags) : Nat → List Char → Option (List Char × List Char)
  | 0, chars => some ([], chars)
  | count + 1, char :: rest =>
    if (Text.hexDigit? char).isSome then
      (hexDigits? flags count (skip flags rest)).map fun (digits, after) => (char :: digits, after)
    else none
  | _ + 1, [] => none

/-- Reads hexadecimal digits up to a closing brace. -/
def bracedDigits? (flags : Flags) : Nat → List Char → Option (List Char × List Char)
  | 0, _ => none
  | limit + 1, chars =>
    match skip flags chars with
    | [] => none
    | '\x7d' :: rest => some ([], rest)
    | char :: rest =>
      if (Text.hexDigit? char).isSome then
        (bracedDigits? flags limit rest).map fun (digits, after) => (char :: digits, after)
      else none

/-- Reads the code point of an escape after its letter. Two digits name a byte. -/
def codeEscape? (flags : Flags) (letter : Char) (chars : List Char) :
    Option (Primitive × List Char) := do
  match skip flags chars with
  | '\x7b' :: rest =>
    let (digits, after) ← bracedDigits? flags (rest.length + 1) rest
    if digits.isEmpty then none
    else
      let char ← charOfCode? (Text.hexadecimal digits)
      return (.literal char, after)
  | rest =>
    let count := if letter = 'x' then 2 else if letter = 'u' then 4 else 8
    let (digits, after) ← hexDigits? flags count rest
    let char ← charOfCode? (Text.hexadecimal digits)
    if letter = 'x' && !flags.unicode && 0x80 ≤ char.toNat then return (.byte, after)
    else return (.literal char, after)

/-- A set, or its complement where that is wanted. Only sets in ASCII are read without the
characters beyond it. -/
def classOf? (flags : Flags) (negated : Bool) (chars : CharSet) : Option CharSet :=
  if flags.unicode then some (if negated then chars.complement else chars)
  else if negated || !chars.isAscii then none
  else some chars

/-- The set of an escaped letter for digits, blanks or word characters. -/
def letterClass? (flags : Flags) (letter : Char) : Option CharSet :=
  let ascii := !flags.unicode
  classOf? flags ("DSW".toList.contains letter)
    (if letter = 'd' ∨ letter = 'D' then .digits ascii
    else if letter = 's' ∨ letter = 'S' then .blanks ascii
    else .wordChars ascii)

/-- The characters up to a closing brace, blanks and comments dropped. -/
def upToBrace? (flags : Flags) : Nat → List Char → Option (List Char × List Char)
  | 0, _ => none
  | limit + 1, chars =>
    match skip flags chars with
    | [] => none
    | '\x7d' :: rest => some ([], rest)
    | char :: rest =>
      (upToBrace? flags limit rest).map fun (name, after) => (char :: name, after)

/-- Splits characters at the first that satisfies a test, which is dropped. -/
def splitFirst? (test : Char → Bool) (chars : List Char) : Option (List Char × List Char) :=
  match chars.dropWhile (!test ·) with
  | [] => none
  | _ :: after => some (chars.takeWhile (!test ·), after)

/-- The characters of a property as it is named. The sign of inequality before a value means the
same as that of equality. -/
def propertyOf? (name : List Char) : Option CharSet :=
  match splitFirst? (· == ':') name, splitFirst? (· == '=') name with
  | some (property, value), _ => Property.valued? property value
  | none, some (property, value) =>
    Property.valued? (if property.getLast? = some '!' then property.dropLast else property) value
  | none, none => Property.named? name

/-- Reads the property of an escape after its letter. -/
def propertyEscape? (flags : Flags) (letter : Char) (chars : List Char) :
    Option (CharSet × List Char) := do
  let (name, after) ←
    match skip flags chars with
    | [] => none
    | '\x7b' :: rest => upToBrace? flags (rest.length + 1) rest
    | char :: rest => if char = '\\' then none else some ([char], rest)
  if !flags.unicode then none
  else
    let chars ← propertyOf? name
    let folded := if flags.ignoreCase then chars.ignoringCase else chars
    let chars ← classOf? flags (letter == 'P') folded
    return (chars, after)

/-- The condition of a word boundary's name in braces. -/
def boundaryOfName? (ascii : Bool) (name : List Char) : Option Anchor :=
  if name == "start".toList then some (.wordStart ascii)
  else if name == "end".toList then some (.wordEnd ascii)
  else if name == "start-half".toList then some (.noWordBefore ascii)
  else if name == "end-half".toList then some (.noWordAfter ascii)
  else none

/-- Whether a character may stand in the name of a word boundary. -/
def isBoundaryChar (char : Char) : Bool :=
  (Text.isWordStart char && char != '_') || char == '-'

/-- Reads a word boundary after its letter. Braces with a name make it a special one. -/
def boundary? (flags : Flags) (chars : List Char) : Option (Anchor × List Char) :=
  let ascii := !flags.unicode
  match chars with
  | '\x7b' :: rest =>
    match skip flags rest with
    | [] => none
    | char :: _ =>
      if isBoundaryChar char then
        match upToBrace? flags (rest.length + 1) rest with
        | some (name, after) => (boundaryOfName? ascii name).map fun condition => (condition, after)
        | none => none
      else some (.wordBoundary ascii, chars)
  | _ => some (.wordBoundary ascii, chars)

/-- Reads an escape after its backslash. -/
def escape? (flags : Flags) : List Char → Option (Primitive × List Char)
  | [] => none
  | char :: rest =>
    if Text.isDigit char then none
    else if char = 'x' ∨ char = 'u' ∨ char = 'U' then codeEscape? flags char rest
    else if char = 'p' ∨ char = 'P' then
      (propertyEscape? flags char rest).map fun (chars, after) => (.set chars, after)
    else if "dswDSW".toList.contains char then
      (letterClass? flags char).map fun chars => (.set chars, rest)
    else if isEscapable char then some (.literal char, rest)
    else
      let ascii := !flags.unicode
      match char with
      | 'a' => some (.literal '\x07', rest)
      | 'f' => some (.literal '\x0c', rest)
      | 't' => some (.literal '\t', rest)
      | 'n' => some (.literal '\n', rest)
      | 'r' => some (.literal '\r', rest)
      | 'v' => some (.literal '\x0b', rest)
      | 'A' => some (.anchor .textStart, rest)
      | 'z' => some (.anchor .textEnd, rest)
      | 'b' => (boundary? flags rest).map fun (condition, after) => (.anchor condition, after)
      | 'B' => some (.anchor (.noWordBoundary ascii), rest)
      | '<' => some (.anchor (.wordStart ascii), rest)
      | '>' => some (.anchor (.wordEnd ascii), rest)
      | _ => none

/-- The ranges of a class of ASCII that a name in colons stands for. -/
def asciiClass? (name : String) : Option CharSet :=
  let sets := [("alnum", "30-39 41-5a 61-7a"), ("alpha", "41-5a 61-7a"), ("ascii", "0-7f"),
    ("blank", "9 20"), ("cntrl", "0-1f 7f"), ("digit", "30-39"), ("graph", "21-7e"),
    ("lower", "61-7a"), ("print", "20-7e"), ("punct", "21-2f 3a-40 5b-60 7b-7e"),
    ("space", "9-d 20"), ("upper", "41-5a"), ("word", "30-39 41-5a 5f 61-7a"),
    ("xdigit", "30-39 41-46 61-66")]
  (sets.lookup name).map fun ranges => .ofText [ranges]

/-- The letters of either case that a set stands for where case is ignored. -/
def fold (flags : Flags) (chars : CharSet) : CharSet :=
  if !flags.ignoreCase then chars
  else if flags.unicode then chars.ignoringCase
  else chars.ignoringAsciiCase

/-- Reads a class of ASCII by name, after its opening bracket. -/
def namedClass? (flags : Flags) : List Char → Option (Option CharSet × List Char)
  | ':' :: rest =>
    let (negated, rest) :=
      match rest with
      | '^' :: more => (true, more)
      | more => (false, more)
    match splitFirst? (· == ':') rest with
    | some (name, ']' :: after) =>
      (asciiClass? (String.ofList name)).map fun chars =>
        (classOf? flags negated (fold flags chars), after)
    | _ => none
  | _ => none

/-- The operations on sets in a class. -/
inductive SetOp where
  /-- The characters of both. -/
  | both
  /-- The characters of the left one only. -/
  | without
  /-- The characters of exactly one. -/
  | either
  deriving DecidableEq, Repr

/-- Applies an operation to sets. -/
def SetOp.apply : SetOp → CharSet → CharSet → CharSet
  | .both => CharSet.intersection
  | .without => CharSet.difference
  | .either => CharSet.symmetricDifference

/-- A part of a class. -/
structure ClassPart where
  /-- Its characters. -/
  chars : CharSet
  /-- How deep classes, operations and lists of parts are nested in it. -/
  depth : Nat

/-- A class that has been opened and not yet closed. -/
structure OpenClass where
  /-- Whether the class is negated. -/
  negated : Bool
  /-- What stands left of an operation that waits for its right side. -/
  waiting : Option (ClassPart × SetOp)
  /-- The parts since the class was opened or the operation read, taken together. -/
  list : ClassPart
  /-- The number of these parts. -/
  count : Nat

namespace OpenClass

/-- Adds a part. -/
def add (open_ : OpenClass) (part : ClassPart) : OpenClass :=
  { open_ with
    list := ⟨open_.list.chars.union part.chars, max open_.list.depth part.depth⟩
    count := open_.count + 1 }

/-- An open class up to here, any waiting operation applied. -/
def total (flags : Flags) (open_ : OpenClass) : ClassPart :=
  let right : ClassPart :=
    ⟨open_.list.chars, if open_.count ≤ 1 then open_.list.depth else open_.list.depth + 1⟩
  match open_.waiting with
  | none => right
  | some (left, op) =>
    ⟨op.apply (fold flags left.chars) (fold flags right.chars), max left.depth right.depth + 1⟩

/-- Goes on to the right side of an operation. -/
def operate (flags : Flags) (open_ : OpenClass) (op : SetOp) : OpenClass :=
  ⟨open_.negated, some (open_.total flags, op), ⟨.empty, 0⟩, 0⟩

/-- The class once it is closed. -/
def close? (flags : Flags) (open_ : OpenClass) : Option ClassPart :=
  let total := open_.total flags
  (classOf? flags open_.negated (fold flags total.chars)).map fun chars => ⟨chars, total.depth + 1⟩

end OpenClass

/-- Drops dashes, and says how many there were. -/
def leadingDashes (flags : Flags) : Nat → List Char → Nat × List Char
  | 0, chars => (0, chars)
  | limit + 1, chars =>
    match chars with
    | '-' :: rest =>
      let (count, after) := leadingDashes flags limit (skip flags rest)
      (count + 1, after)
    | _ => (0, chars)

/-- Opens a class after its bracket. Dashes at the front, and without them a closing bracket at
the front, stand for themselves. -/
def openClass (flags : Flags) (chars : List Char) : OpenClass × List Char :=
  let chars := skip flags chars
  let (negated, chars) :=
    match chars with
    | '^' :: rest => (true, skip flags rest)
    | _ => (false, chars)
  match leadingDashes flags chars.length chars with
  | (0, ']' :: rest) => (⟨negated, none, ⟨.single ']', 0⟩, 1⟩, skip flags rest)
  | (0, rest) => (⟨negated, none, ⟨.empty, 0⟩, 0⟩, rest)
  | (count, rest) => (⟨negated, none, ⟨.single '-', 0⟩, count⟩, rest)

/-- Reads one item of a class: an escape or a character. -/
def classItem? (flags : Flags) : List Char → Option (Primitive × List Char)
  | [] => none
  | '\\' :: rest => escape? flags rest
  | char :: rest => some (.literal char, rest)

/-- The set of an item of a class. -/
def itemSet? (flags : Flags) : Primitive → Option CharSet
  | .literal char => if flags.unicode || char.toNat < 0x80 then some (.single char) else none
  | .set chars => some chars
  | .byte | .anchor _ => none

/-- Reads an item of a class or a range between two characters. A dash before a closing bracket
or another dash starts no range. -/
def classRange? (flags : Flags) (chars : List Char) : Option (CharSet × List Char) := do
  let (first, after) ← classItem? flags chars
  let alone := (itemSet? flags first).map fun chars => (chars, skip flags after)
  match skip flags after with
  | '-' :: rest =>
    match skip flags rest with
    | ']' :: _ | '-' :: _ => alone
    | rest =>
      let (last, after) ← classItem? flags rest
      match first, last with
      | .literal low, .literal high =>
        let _ ← itemSet? flags first
        let _ ← itemSet? flags last
        if low ≤ high then some (⟨[(low.toNat, high.toNat)]⟩, after) else none
      | _, _ => none
  | _ => alone

/-- Reads on in a class with the classes around it, up to the end of the outermost. Every step
takes a character. -/
def classFrom? (flags : Flags) :
    Nat → List OpenClass → OpenClass → List Char → Option (ClassPart × List Char)
  | 0, _, _, _ => none
  | limit + 1, around, open_, chars =>
    let operate (op : SetOp) (rest : List Char) :=
      classFrom? flags limit around (open_.operate flags op) rest
    match skip flags chars with
    | [] => none
    | ']' :: rest =>
      match open_.close? flags, around with
      | none, _ => none
      | some closed, [] => some (closed, rest)
      | some closed, outer :: others => classFrom? flags limit others (outer.add closed) rest
    | '[' :: rest =>
      match namedClass? flags rest with
      | some (some named, after) => classFrom? flags limit around (open_.add ⟨named, 0⟩) after
      | some (none, _) => none
      | none =>
        let (inner, after) := openClass flags rest
        classFrom? flags limit (open_ :: around) inner after
    | '&' :: '&' :: rest => operate .both rest
    | '-' :: '-' :: rest => operate .without rest
    | '~' :: '~' :: rest => operate .either rest
    | rest =>
      match classRange? flags rest with
      | some (more, after) => classFrom? flags limit around (open_.add ⟨more, 0⟩) after
      | none => none

/-- Reads a class after its opening bracket. -/
def class? (flags : Flags) (chars : List Char) : Option (ClassPart × List Char) :=
  let (opened, rest) := openClass flags chars
  classFrom? flags (rest.length + 1) [] opened rest

end Assay.Pattern
