import Assay.Expectation
import Assay.Output
import Assay.Pattern.Reader
import Assay.Pattern.Search
import Assay.Value

/-!
# Matchers

A matcher takes the first match on every line of a test's output and reduces these matches to one
value: the first, the last or all of them, whether there are enough, or which of them are expected.
-/

namespace Assay

/-- A matcher as it is configured. -/
structure MatchSpec where
  /-- The pattern searched for on each line. -/
  regex : String
  /-- Which matches are kept. -/
  matchType : String
  /-- The number of matches asked for, if that is the question. -/
  threshold : Option Nat
  /-- The entries that matches are compared with. -/
  expected : Option (List String)
  deriving DecidableEq, Repr

/-- The way to choose among matches where none is configured. -/
def defaultMatchType : String := "first"

/-- How matches are reduced to a value. -/
inductive MatchPolicy where
  /-- The first match. -/
  | first
  /-- The last match. -/
  | last
  /-- All matches. -/
  | all
  /-- Whether there are at least as many matches. -/
  | threshold (count : Nat)
  /-- For each match, whether any entry expects it. -/
  | expected (entries : List Expectation)

/-- A matcher that is ready to run. -/
structure Matcher where
  /-- The text of the pattern. -/
  pattern : String
  /-- The match on a line, if there is one. -/
  search : List Char → Option (List Char)
  /-- How matches are reduced. -/
  policy : MatchPolicy

namespace MatchSpec

/-- The policy of a way to choose among matches. -/
def mode (matchType : String) : Except MatcherError MatchPolicy :=
  if matchType == "first" then .ok .first
  else if matchType == "last" then .ok .last
  else if matchType == "all" then .ok .all
  else .error (.invalidMode matchType)

/-- The policy of a configuration: a threshold comes before entries, and entries before the way to
choose, which must be known all the same. -/
def policy (spec : MatchSpec) (entries : List Expectation) (mode : MatchPolicy) : MatchPolicy :=
  match spec.threshold with
  | some count => .threshold count
  | none => if entries.isEmpty then mode else .expected entries

/-- Makes the matcher of a configuration. The pattern is checked first, then the entries, then the
way to choose. -/
def validate (spec : MatchSpec) : Except MatcherError Matcher := do
  match Pattern.read? spec.regex with
  | none => throw (.invalidPattern spec.regex)
  | some pattern =>
    let entries ← (spec.expected.getD []).mapM Expectation.read
    let mode ← mode spec.matchType
    let machine := Machine.ofPattern pattern
    return ⟨spec.regex, machine.find?, spec.policy entries mode⟩

end MatchSpec

namespace MatchPolicy

/-- Whether any entry expects the number that a match spells. -/
def isExpected (entries : List Expectation) (found : String) : Bool :=
  match Decimal.readFloat? (Text.trim found) with
  | some number => entries.any (·.accepts number)
  | none => false

/-- Reduces matches to a value. -/
def reduce (policy : MatchPolicy) (found : List String) : Value :=
  match policy with
  | .threshold count => .bool (count ≤ found.length)
  | .expected entries => .list (found.map fun text => .bool (isExpected entries text))
  | .first => (found.head?.map Value.text).getD .null
  | .last => (found.getLast?.map Value.text).getD .null
  | .all => .list (found.map Value.text)

end MatchPolicy

namespace Matcher

/-- Collects the first match on every line while an output is read. -/
def scan (matcher : Matcher) (output : Output) : Except String (List String) :=
  match _read : output.readLine with
  | .error cause => .error cause
  | .ok none => .ok []
  | .ok (some (line, rest)) =>
    (scan matcher rest).map fun found =>
      ((matcher.search (Output.lineText line)).map String.ofList).toList ++ found
termination_by output.bytes.length
decreasing_by exact Output.length_readLine _read

/-- The value of the matches in a test's output, if it can be read to its end. -/
def run (matcher : Matcher) (output : Output) : Except MatcherError Value :=
  ((matcher.scan output).map matcher.policy.reduce).mapError .io

/-- The first match on every line of some bytes, in the order of the lines. -/
def collect (matcher : Matcher) (bytes : List UInt8) : List String :=
  (Output.lines bytes).filterMap fun line => (matcher.search line).map String.ofList

/-- The value of the matches in some bytes. -/
def extract (matcher : Matcher) (bytes : List UInt8) : Value :=
  matcher.policy.reduce (matcher.collect bytes)

end Matcher

end Assay
