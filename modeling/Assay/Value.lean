import Assay.Decimal.Layout
import Assay.Mapping

/-!
# Result values

The values that tests yield and expressions compute, the namespace of one test, and the keys that
the harness itself supplies. Equality of values is structural, with doubles compared as numbers:
no list that holds a NaN equals itself.
-/

namespace Assay

/-- A result value. -/
inductive Value where
  /-- No value. -/
  | null
  /-- A truth value. -/
  | bool (truth : Bool)
  /-- A 64-bit whole number. -/
  | int (number : Int64)
  /-- A double. -/
  | float (number : Float)
  /-- A text. -/
  | text (content : String)
  /-- A list of values. -/
  | list (items : List Value)
  /-- Values under text keys. -/
  | mapping (entries : Mapping Value)

namespace Value

instance : Inhabited Value := ⟨.null⟩

/-- The name of a value's type in messages. -/
def typeName : Value → String
  | .null => "null"
  | .bool _ => "bool"
  | .int _ => "int"
  | .float _ => "float"
  | .text _ => "string"
  | .list _ => "list"
  | .mapping _ => "mapping"

/-- The truth value, if the value is one. -/
def bool? : Value → Option Bool
  | .bool truth => some truth
  | _ => none

/-- Whether there is no value. -/
def isNull : Value → Bool
  | .null => true
  | _ => false

mutual

/-- Whether two values have the same type and content. -/
def same : Value → Value → Bool
  | .null, .null => true
  | .bool left, .bool right => left == right
  | .int left, .int right => left == right
  | .float left, .float right => left == right
  | .text left, .text right => left == right
  | .list left, .list right => sameItems left right
  | .mapping left, .mapping right => sameEntries left right
  | _, _ => false

/-- Whether two lists have the same values in the same places. -/
def sameItems : List Value → List Value → Bool
  | [], [] => true
  | left :: lefts, right :: rights => left.same right && sameItems lefts rights
  | _, _ => false

/-- Whether two mappings have the same values at the same keys. -/
def sameEntries : Mapping Value → Mapping Value → Bool
  | ⟨keys, _, value⟩, right =>
    if keys_eq : keys = right.keys then
      (List.finRange keys.length).all fun place =>
        (value place).same (right.value (place.cast (congrArg List.length keys_eq)))
    else false

end

mutual

/-- The text of a value for a reader. A text stands for itself, without quotes. -/
def display : Value → String
  | .null => "null"
  | .bool truth => if truth then "true" else "false"
  | .int number => toString number.toInt
  | .float number => Decimal.readable.write number
  | .text content => content
  | .list items => "[" ++ ", ".intercalate (displayItems items) ++ "]"
  | .mapping entries => "\x7b" ++ ", ".intercalate (displayEntries entries) ++ "\x7d"

/-- The texts of the values of a list. -/
def displayItems : List Value → List String
  | [] => []
  | item :: items => item.display :: displayItems items

/-- The texts of the entries of a mapping. -/
def displayEntries : Mapping Value → List String
  | ⟨keys, _, value⟩ => List.ofFn fun place => keys.get place ++ ": " ++ (value place).display

end

end Value

/-- The results of one test, by key. -/
abbrev Namespace := Mapping Value

/-- The keys that the harness supplies. Expressions may read them but no configuration defines
them. -/
def reservedKeys : List String :=
  ["name", "id", "test_version", "created", "started", "finished", "duration", "return_value",
    "result_errors", "sys_name", "user", "job_id", "per_file", "permute_on"]

/-- Whether a key is supplied by the harness. -/
def isReserved (key : String) : Bool := reservedKeys.contains key

/-- The key of a test's overall outcome. -/
def resultKey : String := "result"

end Assay
