import Assay.Json
import Assay.Process

/-!
# Reports

What became of the tests of a run, with counts, as a value that can be written as JSON.
-/

namespace Assay

/-- How the outcomes of a run are shown. -/
inductive ReportFormat where
  /-- As lines for a reader and a table. -/
  | table
  /-- As JSON. -/
  | json
  deriving DecidableEq, Repr

/-- Reads the name of a format, in which letters may be in either case. -/
def ReportFormat.read? (name : String) : Option ReportFormat :=
  if Text.sameLetters name.toList "table".toList then some .table
  else if Text.sameLetters name.toList "json".toList then some .json
  else none

/-- What is said about a name that is no format. -/
def ReportFormat.unknownMessage (name : String) : String :=
  "unknown format: " ++ name ++ ". Valid formats: table, json"

/-- The number of tests in a run. -/
structure RunSummary where
  /-- How many there are. -/
  total : Nat
  /-- How many have results. -/
  passed : Nat
  /-- How many failed. -/
  failed : Nat
  deriving DecidableEq, Repr

/-- Counts outcomes. -/
def RunSummary.ofOutcomes (outcomes : List TestOutcome) : RunSummary where
  total := outcomes.length
  passed := outcomes.countP TestOutcome.isOk
  failed := outcomes.length - outcomes.countP TestOutcome.isOk

/-- A test in a report. -/
structure TestReport where
  /-- The name of the test. -/
  name : String
  /-- What tells it from other tests of its name, if anything does. -/
  id : Option String
  /-- Its results, if it has them. -/
  results : Option Namespace
  /-- The failure in words, if it failed. -/
  error : Option String

/-- What a report says about an outcome. -/
def TestReport.ofOutcome (outcome : TestOutcome) : TestReport where
  name := outcome.context.name
  id := outcome.context.id
  results := outcome.result.toOption
  error :=
    match outcome.result with
    | .ok _ => none
    | .error message => some message

/-- A report on a run. -/
structure RunReport where
  /-- When the run took place. -/
  timestamp : String
  /-- The tests, in the order of the run. -/
  tests : List TestReport
  /-- The counts. -/
  summary : RunSummary

/-- The report on some outcomes. -/
def RunReport.ofOutcomes (timestamp : String) (outcomes : List TestOutcome) : RunReport where
  timestamp := timestamp
  tests := outcomes.map TestReport.ofOutcome
  summary := RunSummary.ofOutcomes outcomes

/-- A member of an object. -/
def Json.member (name : String) (value : Json) : Option String × Json := (some name, value)

/-- A member of an object, where there is something to write. -/
def Json.optionalMember {α : Type} (name : String) (write : α → Json) (content : Option α) :
    List (Option String × Json) :=
  content.toList.map fun value => Json.member name (write value)

/-- The document of counts. -/
def RunSummary.toJson (summary : RunSummary) : Json :=
  .object [Json.member "total" (.ofInt summary.total),
    Json.member "passed" (.ofInt summary.passed),
    Json.member "failed" (.ofInt summary.failed)]

/-- The document of a test in a report. What it does not have is left out. -/
def TestReport.toJson (test : TestReport) : Json :=
  .object (Json.member "name" (.ofText test.name) ::
    (Json.optionalMember "id" Json.ofText test.id ++
      Json.optionalMember "results" Namespace.toJson test.results ++
      Json.optionalMember "error" Json.ofText test.error))

/-- The document of a report. -/
def RunReport.toJson (report : RunReport) : Json :=
  .object [Json.member "timestamp" (.ofText report.timestamp),
    Json.member "tests" (.array (report.tests.map TestReport.toJson)),
    Json.member "summary" report.summary.toJson]

end Assay
