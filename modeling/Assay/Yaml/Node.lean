import Assay.Text

/-!
# YAML nodes

What a YAML document means: scalars, sequences and mappings. A scalar without quotes stands for no
value, a truth value or a number where its text is one of these in the core schema, and for its
text otherwise.
-/

namespace Assay.Yaml

/-- A node of a document. -/
inductive Node where
  /-- A text. It is plain when its meaning depends on its spelling. -/
  | scalar (text : String) (plain : Bool)
  /-- A sequence. -/
  | sequence (items : List Node)
  /-- A mapping, with its entries as they are written. -/
  | mapping (entries : List (Node × Node))

namespace Node

instance : Inhabited Node := ⟨.sequence []⟩

/-- The node that stands where nothing is written. -/
def empty : Node := .scalar "" true

/-- The spellings of no value. -/
def nullWords : List String := ["", "~", "null", "Null", "NULL"]

/-- The spellings of truth values. -/
def boolWords : List String := ["true", "True", "TRUE", "false", "False", "FALSE"]

/-- The spellings of infinity, without a sign. -/
def infinityWords : List String := [".inf", ".Inf", ".INF"]

/-- The spellings of what is no number. -/
def nanWords : List String := [".nan", ".NaN", ".NAN"]

/-- Drops a sign. -/
def dropSign : List Char → List Char
  | '+' :: rest => rest
  | '-' :: rest => rest
  | rest => rest

/-- Whether some characters are digits, at least one. -/
def areDigits (chars : List Char) : Bool := !chars.isEmpty && chars.all Text.isDigit

/-- The whole number that a spelling stands for: digits with a sign, or digits of base eight or
sixteen. -/
def whole? (chars : List Char) : Option Int :=
  match chars with
  | '0' :: 'o' :: digits =>
    if !digits.isEmpty && digits.all fun digit => '0' ≤ digit && digit ≤ '7' then
      some (digits.foldl (fun value digit => 8 * value + Text.digitValue digit) 0 : Nat)
    else none
  | '0' :: 'x' :: digits =>
    if !digits.isEmpty && digits.all fun digit => (Text.hexDigit? digit).isSome then
      some (Text.hexadecimal digits)
    else none
  | '-' :: digits => if areDigits digits then some (-(Text.numeral digits : Int)) else none
  | chars => if areDigits (dropSign chars) then some (Text.numeral (dropSign chars)) else none

/-- Whether some characters are an exponent or nothing. -/
def isExponent : List Char → Bool
  | [] => true
  | mark :: rest => (mark == 'e' || mark == 'E') && areDigits (dropSign rest)

/-- Whether some characters spell a decimal number. -/
def isDecimal (chars : List Char) : Bool :=
  let digits := dropSign chars
  let rest := digits.dropWhile Text.isDigit
  match rest with
  | '.' :: fraction =>
    let after := fraction.dropWhile Text.isDigit
    (Text.isDigit (digits.headD '.') || Text.isDigit (fraction.headD '.')) && isExponent after
  | rest => Text.isDigit (digits.headD '.') && isExponent rest

/-- Whether a spelling stands for something else than its text. -/
def hasMeaning (text : String) : Bool :=
  nullWords.contains text || boolWords.contains text || nanWords.contains text ||
    infinityWords.contains (String.ofList (dropSign text.toList)) ||
    (whole? text.toList).isSome || isDecimal text.toList

/-- Whether a node stands for no value. -/
def isNull : Node → Bool
  | .scalar text true => nullWords.contains text
  | _ => false

/-- The text that a node stands for, if it is one. -/
def text? : Node → Option String
  | .scalar text plain => if plain && hasMeaning text then none else some text
  | _ => none

/-- The text of a node that is a key. Every scalar is one, by its spelling. -/
def key? : Node → Option String
  | .scalar text _ => some text
  | _ => none

/-- The whole number that a node stands for, if it is one. -/
def number? : Node → Option Int
  | .scalar text true => whole? text.toList
  | _ => none

/-- The entries of a node that is a mapping with scalar keys. -/
def entries? : Node → Option (List (String × Node))
  | .mapping entries => entries.mapM fun entry => entry.1.key?.map fun key => (key, entry.2)
  | _ => none

end Node

end Assay.Yaml
