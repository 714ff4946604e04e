import Assay.Value

/-!
# JSON documents

A document as it is written: numbers keep their literals and objects the order of their members.
Documents are written compactly on one line, or spread over lines with two blanks of indentation a
level.
-/

namespace Assay

/-- A JSON document. -/
inductive Json where
  /-- The word `null`. -/
  | null
  /-- A truth value. -/
  | bool (truth : Bool)
  /-- A number, by its literal. -/
  | number (literal : List Char)
  /-- A text. It has no content when an escape in it names half of a pair of code units. -/
  | text (content : Option String)
  /-- An array. -/
  | array (items : List Json)
  /-- An object. -/
  | object (members : List (Option String × Json))

namespace Json

instance : Inhabited Json := ⟨.null⟩

/-- A hexadecimal digit. -/
def hexChar (digit : Nat) : Char := "0123456789abcdef".toList.getD digit '0'

/-- A character as it is written in a text. -/
def escape (char : Char) : List Char :=
  match char with
  | '"' => ['\\', '"']
  | '\\' => ['\\', '\\']
  | '\x08' => ['\\', 'b']
  | '\x0c' => ['\\', 'f']
  | '\n' => ['\\', 'n']
  | '\r' => ['\\', 'r']
  | '\t' => ['\\', 't']
  | char =>
    if char.toNat < 0x20 then
      ['\\', 'u', '0', '0', hexChar (char.toNat / 16), hexChar (char.toNat % 16)]
    else [char]

/-- A text in quotes. -/
def quote (content : List Char) : List Char := '"' :: content.flatMap escape ++ ['"']

/-- The characters of a text, none if it has no content. -/
def contentChars (content : Option String) : List Char := (content.getD "").toList

/-- Pieces with commas between them. -/
def withCommas : List (List Char) → List Char
  | [] => []
  | [piece] => piece
  | piece :: pieces => piece ++ ',' :: withCommas pieces

mutual

/-- A document on one line. -/
def compact : Json → List Char
  | .null => "null".toList
  | .bool truth => (if truth then "true" else "false").toList
  | .number literal => literal
  | .text content => quote (contentChars content)
  | .array items => '[' :: withCommas (compactItems items) ++ [']']
  | .object members => '\x7b' :: withCommas (compactMembers members) ++ ['\x7d']

/-- The items of an array, each on one line. -/
def compactItems : List Json → List (List Char)
  | [] => []
  | item :: items => item.compact :: compactItems items

/-- The members of an object, each on one line. -/
def compactMembers : List (Option String × Json) → List (List Char)
  | [] => []
  | (key, value) :: members =>
    (quote (contentChars key) ++ ':' :: value.compact) :: compactMembers members

end

/-- The start of a line at a level of indentation. -/
def newLine (level : Nat) : List Char := '\n' :: List.replicate (2 * level) ' '

/-- Pieces on lines of their own, a level further in than what is around them. -/
def onLines (level : Nat) (opening closing : Char) (pieces : List (List Char)) : List Char :=
  match pieces with
  | [] => [opening, closing]
  | pieces =>
    opening :: withCommas (pieces.map fun piece => newLine (level + 1) ++ piece) ++
      newLine level ++ [closing]

mutual

/-- A document spread over lines. -/
def pretty (level : Nat) : Json → List Char
  | .null => "null".toList
  | .bool truth => (if truth then "true" else "false").toList
  | .number literal => literal
  | .text content => quote (contentChars content)
  | .array items => onLines level '[' ']' (prettyItems (level + 1) items)
  | .object members => onLines level '\x7b' '\x7d' (prettyMembers (level + 1) members)

/-- The items of an array, each spread over lines. -/
def prettyItems (level : Nat) : List Json → List (List Char)
  | [] => []
  | item :: items => item.pretty level :: prettyItems level items

/-- The members of an object, each spread over lines. -/
def prettyMembers (level : Nat) : List (Option String × Json) → List (List Char)
  | [] => []
  | (key, value) :: members =>
    (quote (contentChars key) ++ ':' :: ' ' :: value.pretty level) :: prettyMembers level members

end

/-- The text of a document on one line. -/
def toText (document : Json) : String := String.ofList document.compact

/-- The text of a document spread over lines. -/
def toPrettyText (document : Json) : String := String.ofList (document.pretty 0)

/-- The document of a text. -/
def ofText (content : String) : Json := .text (some content)

/-- The document of a whole number. -/
def ofInt (number : Int) : Json := .number (toString number).toList

/-- Numbers from `1e-5` to below `1e16` are plain, and a whole one shows a decimal. -/
def numberLayout : Decimal.Layout where
  plain leading := -5 ≤ leading && leading < 16
  pointZero := true
  plusExponent := true
  tie := .even

/-- The document of a double. Infinities and what is no number are written as no value. -/
def ofFloat (number : Float) : Json :=
  if number.isFinite then .number (numberLayout.write number).toList else .null

end Json

namespace Value

mutual

/-- The document of a value. -/
def toJson : Value → Json
  | .null => .null
  | .bool truth => .bool truth
  | .int number => .ofInt number.toInt
  | .float number => .ofFloat number
  | .text content => .ofText content
  | .list items => .array (toJsonItems items)
  | .mapping entries => .object (toJsonEntries entries)

/-- The documents of the values of a list. -/
def toJsonItems : List Value → List Json
  | [] => []
  | item :: items => item.toJson :: toJsonItems items

/-- The members for the entries of a mapping. -/
def toJsonEntries : Mapping Value → List (Option String × Json)
  | ⟨keys, _, value⟩ => List.ofFn fun place => (some (keys.get place), (value place).toJson)

end

end Value

/-- The document of a namespace. -/
def Namespace.toJson (results : Namespace) : Json := .object (Value.toJsonEntries results)

end Assay
