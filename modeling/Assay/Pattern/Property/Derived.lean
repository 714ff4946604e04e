import Assay.Pattern.CaseOrbit
import Assay.Pattern.Category
import Assay.Pattern.Property.Listed

/-!
# Derived properties

The properties of characters that follow from their categories, from listed properties and from
the letters that differ in case only, and the classes of digits, blanks and word characters that a
pattern has short signs for.
-/

namespace Assay

/-- A property that follows from others. -/
inductive DerivedProperty where
  /-- Letters and what is used like them. -/
  | alphabetic
  /-- Characters that sentences may ignore when they look for case. -/
  | caseIgnorable
  /-- Characters in lower, upper or title case. -/
  | cased
  /-- Characters whose case folding differs from them. -/
  | changesWhenCasefolded
  /-- Characters with another form in any case. -/
  | changesWhenCasemapped
  /-- Characters whose form in lower case differs from them. -/
  | changesWhenLowercased
  /-- Characters whose form in title case differs from them. -/
  | changesWhenTitlecased
  /-- Characters whose form in upper case differs from them. -/
  | changesWhenUppercased
  /-- Characters that show nothing where they are not known. -/
  | defaultIgnorable
  /-- Characters that others may extend. -/
  | graphemeBase
  /-- Characters that extend the one before. -/
  | graphemeExtend
  /-- Characters that names go on with. -/
  | idContinue
  /-- Characters that names start with. -/
  | idStart
  /-- Characters in lower case. -/
  | lowercase
  /-- Mathematical characters. -/
  | math
  /-- Characters in upper case. -/
  | uppercase
  /-- Characters that names go on with in any normal form. -/
  | xidContinue
  /-- Characters that names start with in any normal form. -/
  | xidStart

namespace DerivedProperty

/-- The characters in upper or in lower case. -/
def caseChars (upper : Bool) : CharSet :=
  if upper then Category.uppercaseLetter.chars.union ListedProperty.otherUppercase.chars
  else Category.lowercaseLetter.chars.union ListedProperty.otherLowercase.chars

/-- The characters that names start or go on with. -/
def nameChars (first : Bool) : CharSet :=
  let signs := ListedProperty.patternSyntax.chars.union ListedProperty.patternWhiteSpace.chars
  let starts :=
    (Category.charsOf (.letterNumber :: Category.letters)).union ListedProperty.otherIdStart.chars
  if first then starts.difference signs
  else
    (CharSet.unionAll
      [starts, Category.charsOf [.nonspacingMark, .spacingMark, .decimalDigit, .connector],
        ListedProperty.otherIdContinue.chars]).difference signs

/-- The characters whose form in upper or in lower case differs from them. A letter that differs
from another in case only has one of the two; some others change when they are taken apart. -/
def changedBy (upper : Bool) : CharSet :=
  let withCase := CharSet.ofCodes (orbitsOfText caseOrbitLines).flatten
  if upper then
    (withCase.difference (caseChars true)).union
      (.ofText
        ["131 149 1f0 587 1e96-1e9a 1f50 1f52 1f54 1f56 1fb2 1fb4 1fb6-1fb7 1fc2 1fc4 1fc6-1fc7",
          "1fd2 1fd6-1fd7 1fe2 1fe4 1fe6-1fe7 1ff2 1ff4 1ff6-1ff7 fb00-fb04 fb13-fb17"])
  else
    (withCase.intersection ((caseChars true).union Category.titlecaseLetter.chars)).union
      (.ofText ["130"])

/-- The characters with a property. -/
def chars : DerivedProperty → CharSet
  | .alphabetic =>
    .unionAll
      [Category.charsOf (.letterNumber :: Category.letters), ListedProperty.otherAlphabetic.chars]
  | .caseIgnorable =>
    (Category.charsOf
      [.nonspacingMark, .enclosingMark, .format, .modifierLetter, .modifierSymbol]).union
      (.ofText ["27 2e 3a b7 387 55f 5f4 2018-2019 2024 2027 fe13 fe52 fe55 ff07 ff0e ff1a"])
  | .cased => .unionAll [caseChars true, caseChars false, Category.titlecaseLetter.chars]
  | .changesWhenCasefolded =>
    ((changedBy false).difference (.ofText ["13a0-13f5"])).union
      (.ofText
        ["b5 df 149 17f 345 3c2 3d0-3d1 3d5-3d6 3f0-3f1 3f5 587 13f8-13fd 1c80-1c88 1e9a-1e9b",
          "1f80-1f87 1f90-1f97 1fa0-1fa7 1fb2-1fb4 1fb7 1fc2-1fc4 1fc7 1ff2-1ff4 1ff7 ab70-abbf",
          "fb00-fb06 fb13-fb17"])
  | .changesWhenCasemapped => (changedBy true).union (changedBy false)
  | .changesWhenLowercased => changedBy false
  | .changesWhenTitlecased =>
    ((changedBy true).difference
      (Category.titlecaseLetter.chars.union (.ofText ["10d0-10fa 10fd-10ff"]))).union
      (.ofText ["1c4 1c7 1ca 1f1"])
  | .changesWhenUppercased => changedBy true
  | .defaultIgnorable =>
    (CharSet.unionAll
      [Category.format.chars, ListedProperty.variationSelector.chars,
        ListedProperty.otherDefaultIgnorable.chars]).difference
      (ListedProperty.prependedConcatenationMark.chars.union (.ofText ["fff9-fffb 13430-1343f"]))
  | .graphemeBase =>
    (Category.charsOf
      ([.space, .spacingMark] ++ Category.letters ++ Category.numbers ++ Category.punctuation ++
        Category.symbols)).difference ListedProperty.otherGraphemeExtend.chars
  | .graphemeExtend =>
    (Category.charsOf [.nonspacingMark, .enclosingMark]).union
      ListedProperty.otherGraphemeExtend.chars
  | .idContinue => nameChars false
  | .idStart => nameChars true
  | .lowercase => caseChars false
  | .math => Category.mathSymbol.chars.union ListedProperty.otherMath.chars
  | .uppercase => caseChars true
  | .xidContinue =>
    (nameChars false).difference
      (.ofText ["37a 309b-309c fc5e-fc63 fdfa-fdfb fe70 fe72 fe74 fe76 fe78 fe7a fe7c fe7e"])
  | .xidStart =>
    (nameChars true).difference
      (.ofText
        ["37a e33 eb3 309b-309c fc5e-fc63 fdfa-fdfb fe70 fe72 fe74 fe76 fe78 fe7a fe7c fe7e",
          "ff9e-ff9f"])

/-- The properties, each with its short and its long names in lower case. -/
def named : List (List String × DerivedProperty) := [
  (["alpha", "alphabetic"], .alphabetic),
  (["ci", "caseignorable"], .caseIgnorable),
  (["cased"], .cased),
  (["cwcf", "changeswhencasefolded"], .changesWhenCasefolded),
  (["cwcm", "changeswhencasemapped"], .changesWhenCasemapped),
  (["cwl", "changeswhenlowercased"], .changesWhenLowercased),
  (["cwt", "changeswhentitlecased"], .changesWhenTitlecased),
  (["cwu", "changeswhenuppercased"], .changesWhenUppercased),
  (["di", "defaultignorablecodepoint"], .defaultIgnorable),
  (["grbase", "graphemebase"], .graphemeBase),
  (["grext", "graphemeextend"], .graphemeExtend),
  (["idc", "idcontinue"], .idContinue),
  (["ids", "idstart"], .idStart),
  (["lower", "lowercase"], .lowercase),
  (["math"], .math),
  (["upper", "uppercase"], .uppercase),
  (["xidc", "xidcontinue"], .xidContinue),
  (["xids", "xidstart"], .xidStart)]

/-- The property of a name. -/
def find? (name : String) : Option DerivedProperty :=
  (named.find? fun entry => entry.1.contains name).map Prod.snd

end DerivedProperty

namespace CharSet

/-- The characters of words in the sense of either ASCII or all of Unicode. -/
def wordChars (ascii : Bool) : CharSet :=
  if ascii then .ofText ["30-39 41-5a 5f 61-7a"]
  else
    .unionAll
      [DerivedProperty.alphabetic.chars, ListedProperty.joinControl.chars,
        Category.charsOf (.decimalDigit :: .connector :: Category.marks)]

/-- The decimal digits in the sense of either ASCII or all of Unicode. -/
def digits (ascii : Bool) : CharSet :=
  if ascii then .ofText ["30-39"] else Category.decimalDigit.chars

/-- The blanks in the sense of either ASCII or all of Unicode. -/
def blanks (ascii : Bool) : CharSet :=
  if ascii then .ofText ["9-d 20"] else ListedProperty.whiteSpace.chars

end CharSet

end Assay
