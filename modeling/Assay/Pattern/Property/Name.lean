import Assay.Pattern.Property.Boundary
import Assay.Pattern.ScriptExtension
import Assay.Pattern.UnicodeVersion

/-!
# Names of properties

A pattern names a set of characters by a property that they have or not, by a category or a script,
or by a property together with one of its values. Case, spaces, dashes and underscores make no
difference in a name, and neither does a leading `is`.
-/

namespace Assay.Property

/-- The key of a name, in lower case. A leading `is` is dropped unless `c` alone is left, which
names something else. -/
def key (name : List Char) : String :=
  let strip (chars : List Char) :=
    (chars.filter fun char =>
      char.toNat < 0x80 && char != ' ' && char != '-' && char != '_').map Text.lowerChar
  match name with
  | 'i' :: 's' :: rest | 'I' :: 's' :: rest | 'i' :: 'S' :: rest | 'I' :: 'S' :: rest =>
    if strip rest = ['c'] then "isc" else String.ofList (strip rest)
  | _ => String.ofList (strip name)

/-- The characters of a property, category or script of a name. -/
def named? (name : List Char) : Option CharSet :=
  let key := key name
  (DerivedProperty.find? key).map DerivedProperty.chars <|>
    (ListedProperty.find? key).map ListedProperty.chars <|>
    Category.find? key <|>
    (Script.find? key).map Script.chars

/-- The characters with a value of a property that has many. -/
def valued? (name value : List Char) : Option CharSet :=
  let value := key value
  match key name with
  | "gc" | "generalcategory" => Category.find? value
  | "sc" | "script" => (Script.find? value).map Script.chars
  | "scx" | "scriptextensions" => (Script.find? value).map Script.usedChars
  | "age" => UnicodeVersion.charsUpTo? value
  | "gcb" | "graphemeclusterbreak" => (ClusterClass.find? value).map ClusterClass.chars
  | "wb" | "wordbreak" => (WordClass.find? value).map WordClass.chars
  | "sb" | "sentencebreak" => (SentenceClass.find? value).map SentenceClass.chars
  | _ => none

end Assay.Property
