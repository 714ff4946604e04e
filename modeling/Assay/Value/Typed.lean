import Assay.Value

/-!
# Reading extracted text as numbers

What a test writes is text. An expression that refers to such text sees the number or the truth
value that it spells, so that arithmetic works on it. The words for infinity and for no number
spell no number here.
-/

namespace Assay

/-- Whether a text has the characters of a numeral and at least one digit. -/
def Decimal.spellsNumber (text : String) : Bool :=
  text.toList.any Text.isDigit &&
    text.toList.all fun char =>
      Text.isDigit char || char == '.' || char == 'e' || char == 'E' || char == '+' || char == '-'

namespace Value

/-- The number or truth value that a text spells, blanks around it aside; otherwise the text. -/
def ofText (content : String) : Value :=
  let trimmed := Text.trim content
  match Decimal.readWord? trimmed with
  | some number => .int number
  | none =>
    if Decimal.spellsNumber trimmed then
      match Decimal.readFloat? trimmed with
      | some number => .float number
      | none => .text content
    else if Text.sameLetters trimmed.toList "true".toList then .bool true
    else if Text.sameLetters trimmed.toList "false".toList then .bool false
    else .text content

mutual

/-- The value with every text in it read as what it spells. -/
def typed : Value → Value
  | .text content => ofText content
  | .list items => .list (typedItems items)
  | .mapping entries => .mapping (typedEntries entries)
  | .null => .null
  | .bool truth => .bool truth
  | .int number => .int number
  | .float number => .float number

/-- The values of a list, each read as what it spells. -/
def typedItems : List Value → List Value
  | [] => []
  | item :: items => item.typed :: typedItems items

/-- The values of a mapping, each read as what it spells. -/
def typedEntries : Mapping Value → Mapping Value
  | ⟨keys, ascending, value⟩ => ⟨keys, ascending, fun place => (value place).typed⟩

end

@[simp]
theorem typedItems_eq_map (items : List Value) : typedItems items = items.map typed := by
  induction items with
  | nil => rfl
  | cons item items ih => simp [typedItems, ih]

@[simp]
theorem typedEntries_eq_map (entries : Mapping Value) :
    typedEntries entries = entries.map typed := by
  cases entries
  rfl

end Value

end Assay
