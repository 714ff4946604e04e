import Assay.Pattern.Property.Derived

/-!
# Classes of characters at boundaries

Most characters have a class that says where one written character ends and the next one starts,
and other classes for the boundaries of words and of sentences. The ranges are those of
Unicode 16.0, in hexadecimal.
-/

namespace Assay

/-- A class of characters at the boundaries of written characters. -/
inductive ClusterClass where
  /-- Controls, which stand alone. -/
  | control
  /-- The carriage return. -/
  | carriageReturn
  /-- Characters that extend the one before. -/
  | extend
  /-- Consonants that start a Korean syllable. -/
  | leading
  /-- The newline. -/
  | lineFeed
  /-- Korean syllables of a consonant and a vowel. -/
  | openSyllable
  /-- Korean syllables that end in a consonant. -/
  | closedSyllable
  /-- Characters that belong to the next one. -/
  | prepend
  /-- Letters that make a flag in pairs. -/
  | regionalIndicator
  /-- Marks that take space. -/
  | spacingMark
  /-- Consonants that end a Korean syllable. -/
  | trailing
  /-- Vowels of Korean syllables. -/
  | vowel
  /-- The invisible character that joins. -/
  | joiner

namespace ClusterClass

/-- The characters of a class. -/
def chars : ClusterClass → CharSet
  | .control =>
    ((Category.charsOf [.lineSeparator, .paragraphSeparator, .control, .format]).union
      (Category.unassigned.intersection DerivedProperty.defaultIgnorable.chars)).difference
      (.unionAll
        [.ofText ["a d 200c-200d"], ListedProperty.prependedConcatenationMark.chars,
          DerivedProperty.graphemeExtend.chars])
  | .carriageReturn => .ofText ["d"]
  | .extend => DerivedProperty.graphemeExtend.chars.union ListedProperty.emojiModifier.chars
  | .leading => .ofText ["1100-115f a960-a97c"]
  | .lineFeed => .ofText ["a"]
  | .openSyllable => .ofCodes ((List.range 399).map fun index => 0xac00 + 28 * index)
  | .closedSyllable =>
    (CharSet.ofText ["ac00-d7a3"]).difference
      (.ofCodes ((List.range 399).map fun index => 0xac00 + 28 * index))
  | .prepend =>
    ListedProperty.prependedConcatenationMark.chars.union
      (.ofText ["d4e 111c2-111c3 113d1 1193f 11941 11a3a 11a84-11a89 11d46 11f02"])
  | .regionalIndicator => ListedProperty.regionalIndicator.chars
  | .spacingMark =>
    (Category.spacingMark.chars.union (.ofText ["e33 eb3"])).difference
      (DerivedProperty.graphemeExtend.chars.union
        (.ofText
          ["102b-102c 1038 1062-1064 1067-106d 1083 1087-108c 108f 109a-109c 1a61 1a63-1a64",
            "aa7b aa7d 11720-11721"]))
  | .trailing => .ofText ["11a8-11ff d7cb-d7fb"]
  | .vowel => .ofText ["1160-11a7 d7b0-d7c6 16d63 16d67-16d6a"]
  | .joiner => .ofText ["200d"]

/-- The classes, each with its short and its long names in lower case. -/
def named : List (List String × ClusterClass) := [
  (["cn", "control"], .control),
  (["cr"], .carriageReturn),
  (["ex", "extend"], .extend),
  (["l"], .leading),
  (["lf"], .lineFeed),
  (["lv"], .openSyllable),
  (["lvt"], .closedSyllable),
  (["pp", "prepend"], .prepend),
  (["ri", "regionalindicator"], .regionalIndicator),
  (["sm", "spacingmark"], .spacingMark),
  (["t"], .trailing),
  (["v"], .vowel),
  (["zwj"], .joiner)]

/-- The class of a name. -/
def find? (name : String) : Option ClusterClass :=
  (named.find? fun entry => entry.1.contains name).map Prod.snd

end ClusterClass

/-- A class of characters at the boundaries of words. -/
inductive WordClass where
  /-- Letters of words. -/
  | letter
  /-- The carriage return. -/
  | carriageReturn
  /-- The straight quotation mark. -/
  | doubleQuote
  /-- Characters that extend the one before. -/
  | extend
  /-- Characters that join letters and digits. -/
  | extendNumLet
  /-- Invisible characters that format. -/
  | format
  /-- Hebrew letters. -/
  | hebrewLetter
  /-- Katakana. -/
  | katakana
  /-- The newline. -/
  | lineFeed
  /-- Punctuation inside words. -/
  | midLetter
  /-- Punctuation inside numbers. -/
  | midNum
  /-- Punctuation inside words and numbers. -/
  | midNumLet
  /-- Other characters that end lines. -/
  | newline
  /-- Digits of numbers. -/
  | numeric
  /-- Letters that make a flag in pairs. -/
  | regionalIndicator
  /-- The straight apostrophe. -/
  | singleQuote
  /-- Blanks that words have between them. -/
  | space
  /-- The invisible character that joins. -/
  | joiner

namespace WordClass

/-- The characters of a class. -/
def chars : WordClass → CharSet
  | .letter =>
    (DerivedProperty.alphabetic.chars.union
      (.ofText
        ["b8 2c2-2c5 2d2-2d7 2de-2df 2e5-2eb 2ed 2ef-2ff 55a-55c 55e 58a 5f3 70f a708-a716",
          "a720-a721 a789-a78a ab5b"])).difference
      (.unionAll
        [ListedProperty.ideographic.chars, DerivedProperty.graphemeExtend.chars,
          Category.spacingMark.chars,
          .ofText
            ["5d0-5ea 5ef-5f2 e01-e30 e32-e33 e40-e46 e81-e82 e84 e86-e8a e8c-ea3 ea5 ea7-eb0 eb2-eb3",
              "ebd ec0-ec4 ec6 edc-edf 1000-102a 103f 1050-1055 105a-105d 1061 1065-1066 106e-1070",
              "1075-1081 108e 1780-17b3 17d7 17dc 1950-196d 1970-1974 1980-19ab 19b0-19c9 1a20-1a54",
              "1aa7 3031-3035 3041-3096 309d-309f 30a1-30fa 30fc-30ff 31f0-31ff a9e0-a9e4 a9e6-a9ef",
              "a9fa-a9fe aa60-aa76 aa7a aa7e-aaaf aab1 aab5-aab6 aab9-aabd aac0 aac2 aadb-aadd fb1d",
              "fb1f-fb28 fb2a-fb36 fb38-fb3c fb3e fb40-fb41 fb43-fb44 fb46-fb4f ff66-ff9d 11700-1171a",
              "11740-11746 1aff0-1aff3 1aff5-1affb 1affd-1affe 1b000-1b122 1b132 1b150-1b152 1b155",
              "1b164-1b167"]])
  | .carriageReturn => .ofText ["d"]
  | .doubleQuote => .ofText ["22"]
  | .extend =>
    .unionAll
      [DerivedProperty.graphemeExtend.chars, Category.spacingMark.chars,
        ListedProperty.emojiModifier.chars]
  | .extendNumLet => Category.connector.chars.union (.ofText ["202f"])
  | .format =>
    Category.format.chars.difference
      (.unionAll
        [.ofText ["200b-200d"], ListedProperty.prependedConcatenationMark.chars,
          DerivedProperty.graphemeExtend.chars])
  | .hebrewLetter => .ofText
    ["5d0-5ea 5ef-5f2 fb1d fb1f-fb28 fb2a-fb36 fb38-fb3c fb3e fb40-fb41 fb43-fb44 fb46-fb4f"]
  | .katakana => .ofText
    ["3031-3035 309b-309c 30a0-30fa 30fc-30ff 31f0-31ff 32d0-32fe 3300-3357 ff66-ff9d",
      "1aff0-1aff3 1aff5-1affb 1affd-1affe 1b000 1b120-1b122 1b155 1b164-1b167"]
  | .lineFeed => .ofText ["a"]
  | .midLetter => .ofText ["3a b7 387 55f 5f4 2027 fe13 fe55 ff1a"]
  | .midNum => .ofText ["2c 3b 37e 589 60c-60d 66c 7f8 2044 fe50 fe54 ff0c ff1b"]
  | .midNumLet => .ofText ["2e 2018-2019 2024 fe52 ff07 ff0e"]
  | .newline => .ofText ["b-c 85 2028-2029"]
  | .numeric =>
    Category.decimalDigit.chars.union
      (.ofText ["600-605 66b 6dd 890-891 8e2 19da 110bd 110cd"])
  | .regionalIndicator => ListedProperty.regionalIndicator.chars
  | .singleQuote => .ofText ["27"]
  | .space => .ofText ["20 1680 2000-2006 2008-200a 205f 3000"]
  | .joiner => .ofText ["200d"]

/-- The classes, each with its short and its long names in lower case. -/
def named : List (List String × WordClass) := [
  (["le", "aletter"], .letter),
  (["cr"], .carriageReturn),
  (["dq", "doublequote"], .doubleQuote),
  (["extend"], .extend),
  (["ex", "extendnumlet"], .extendNumLet),
  (["fo", "format"], .format),
  (["hl", "hebrewletter"], .hebrewLetter),
  (["ka", "katakana"], .katakana),
  (["lf"], .lineFeed),
  (["ml", "midletter"], .midLetter),
  (["mn", "midnum"], .midNum),
  (["mb", "midnumlet"], .midNumLet),
  (["nl", "newline"], .newline),
  (["nu", "numeric"], .numeric),
  (["ri", "regionalindicator"], .regionalIndicator),
  (["sq", "singlequote"], .singleQuote),
  (["wsegspace"], .space),
  (["zwj"], .joiner)]

/-- The class of a name. -/
def find? (name : String) : Option WordClass :=
  (named.find? fun entry => entry.1.contains name).map Prod.snd

end WordClass

/-- A class of characters at the boundaries of sentences. -/
inductive SentenceClass where
  /-- Points, which may end a sentence or not. -/
  | point
  /-- The carriage return. -/
  | carriageReturn
  /-- Brackets and quotation marks. -/
  | close
  /-- Characters that extend the one before. -/
  | extend
  /-- Invisible characters that format. -/
  | format
  /-- The newline. -/
  | lineFeed
  /-- Characters in lower case. -/
  | lower
  /-- Digits of numbers. -/
  | numeric
  /-- Letters without case. -/
  | otherLetter
  /-- Punctuation that a sentence goes on after. -/
  | continuation
  /-- Other characters that end lines. -/
  | separator
  /-- Blanks. -/
  | space
  /-- Punctuation that ends a sentence. -/
  | terminal
  /-- Characters in upper case. -/
  | upper

namespace SentenceClass

/-- The characters in upper or in lower case, apart from Georgian letters, which sentences use
without regard to case. -/
def caseChars (upper : Bool) : CharSet :=
  if upper then
    (DerivedProperty.uppercase.chars.union Category.titlecaseLetter.chars).difference
      (.ofText ["1c90-1cba 1cbd-1cbf"])
  else
    DerivedProperty.lowercase.chars.difference
      (DerivedProperty.graphemeExtend.chars.union (.ofText ["10d0-10fa 10fd-10ff"]))

/-- The characters of a class. -/
def chars : SentenceClass → CharSet
  | .point => .ofText ["2e 2024 fe52 ff0e"]
  | .carriageReturn => .ofText ["d"]
  | .close =>
    ((Category.charsOf [.opening, .closing, .initialQuote, .finalQuote]).union
      (.ofText ["22 27 275b-2760 2e00-2e01 2e06-2e08 2e0b 1f676-1f678"])).difference
      ListedProperty.sentenceTerminal.chars
  | .extend =>
    .unionAll
      [DerivedProperty.graphemeExtend.chars, Category.spacingMark.chars, .ofText ["200d"]]
  | .format =>
    Category.format.chars.difference
      ((CharSet.ofText ["200c-200d 600-605 6dd 890-891 8e2 110bd 110cd"]).union
        DerivedProperty.graphemeExtend.chars)
  | .lineFeed => .ofText ["a"]
  | .lower => caseChars false
  | .numeric => WordClass.numeric.chars.union (.ofText ["66c"])
  | .otherLetter =>
    (DerivedProperty.alphabetic.chars.union (.ofText ["5f3"])).difference
      (.unionAll
        [caseChars true, caseChars false, DerivedProperty.graphemeExtend.chars,
          Category.spacingMark.chars])
  | .continuation => .ofText
    ["2c-2d 3a-3b 37e 55d 60c-60d 7f8 1802 1808 2013-2014 3001 fe10-fe11 fe13-fe14 fe31-fe32",
      "fe50-fe51 fe54-fe55 fe58 fe63 ff0c-ff0d ff1a-ff1b ff64"]
  | .separator => .ofText ["85 2028-2029"]
  | .space => .ofText ["9 b-c 20 a0 1680 2000-200a 202f 205f 3000"]
  | .terminal =>
    ListedProperty.sentenceTerminal.chars.difference (.ofText ["2e 2024 fe52 ff0e"])
  | .upper => caseChars true

/-- The classes, each with its short and its long names in lower case. -/
def named : List (List String × SentenceClass) := [
  (["at", "aterm"], .point),
  (["cr"], .carriageReturn),
  (["cl", "close"], .close),
  (["ex", "extend"], .extend),
  (["fo", "format"], .format),
  (["lf"], .lineFeed),
  (["lo", "lower"], .lower),
  (["nu", "numeric"], .numeric),
  (["le", "oletter"], .otherLetter),
  (["sc", "scontinue"], .continuation),
  (["se", "sep"], .separator),
  (["sp"], .space),
  (["st", "sterm"], .terminal),
  (["up", "upper"], .upper)]

/-- The class of a name. -/
def find? (name : String) : Option SentenceClass :=
  (named.find? fun entry => entry.1.contains name).map Prod.snd

end SentenceClass

end Assay
