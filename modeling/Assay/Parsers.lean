/-!
# Result parsers

What a configuration can ask for to be extracted, described for a reader.
-/

namespace Assay

/-- A setting of a result parser. -/
structure ConfigField where
  /-- The name of the setting. -/
  name : String
  /-- Whether it must be given. -/
  required : Bool
  /-- What it means. -/
  help : String
  deriving DecidableEq, Repr

/-- A result parser. -/
structure ResultParser where
  /-- The name under which a configuration asks for it. -/
  name : String
  /-- What it does. -/
  help : String
  /-- Its settings. -/
  fields : List ConfigField
  deriving DecidableEq, Repr

/-- The result parser that searches for a pattern on each line. -/
def regexParser : ResultParser where
  name := "regex"
  help := "Find matches to the given regex in the test output. The matched string " ++
    "or strings are returned as the result."
  fields := [
    { name := "regex"
      required := true
      help := "Regular expression searched for on each line of the output. " ++
        "Only the first match on a line is kept." },
    { name := "match_type"
      required := false
      help := "Which matches to return: 'first' (default), 'last' or 'all'." },
    { name := "threshold"
      required := false
      help := "If set, return true when at least this many lines matched." },
    { name := "expected"
      required := false
      help := "Expected values ('10') or inclusive ranges ('1-5', '-3--1'). " ++
        "Returns one boolean per match." }]

/-- All result parsers. -/
def resultParsers : List ResultParser := [regexParser]

end Assay
