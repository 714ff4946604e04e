import Assay.Report
import Assay.Table

/-!
# Reports for a reader

The outcomes of a run as lines: one for each test, a table of all results, the failures in full
and the counts.
-/

namespace Assay

/-- How lines for a reader are written. -/
structure Console where
  /-- Whether every result of a test is listed below its line. -/
  verbose : Bool
  /-- Whether words that tell a status have a colour. -/
  color : Bool
  deriving DecidableEq, Repr

/-- The colours of a terminal that are used. -/
inductive Paint where
  /-- For what is well. -/
  | green
  /-- For failures and errors. -/
  | red
  /-- For warnings. -/
  | yellow

/-- The code of a colour. -/
def Paint.code : Paint → String
  | .green => "32"
  | .red => "31"
  | .yellow => "33"

namespace Console

/-- A text in a colour, if there are colours. -/
def paint (console : Console) (color : Paint) (text : String) : String :=
  if console.color then "\x1b[" ++ color.code ++ "m" ++ text ++ "\x1b[0m" else text

/-- Whether all went well. -/
def status (console : Console) (isOk : Bool) : String :=
  if isOk then console.paint .green "ok" else console.paint .red "FAILED"

/-- An error. -/
def errorLine (console : Console) (message : String) : String :=
  console.paint .red "error" ++ ": " ++ message

/-- A warning. -/
def warningLine (console : Console) (message : String) : String :=
  console.paint .yellow "warning" ++ ": " ++ message

/-- The lines at the start of a run. -/
def startLines (count : Nat) : List String :=
  ["", "processing results for " ++ toString count ++ " tests"]

/-- The lines of a test. -/
def testLines (console : Console) (outcome : TestOutcome) : List String :=
  let line := "test " ++ outcome.context.display ++ " ... " ++ console.status outcome.isOk
  match outcome.result with
  | .ok results =>
    if console.verbose then
      line :: results.entries.map fun entry => "    " ++ entry.1 ++ " = " ++ entry.2.display
    else [line]
  | .error _ => [line]

/-- The rows of a test in the table of results. -/
def testRows (outcome : TestOutcome) : List (List String) :=
  match outcome.result with
  | .ok results =>
    results.entries.map fun entry => [outcome.context.display, entry.1, entry.2.display]
  | .error _ => [[outcome.context.display, "-", "error"]]

/-- The table of results. -/
def resultTable (outcomes : List TestOutcome) : Table where
  header := ["Test", "Key", "Value"]
  rows := outcomes.flatMap testRows

/-- The lines of a test among the failures, if it failed. -/
def failureLines (outcome : TestOutcome) : List String :=
  match outcome.result with
  | .ok _ => []
  | .error message =>
    ["---- " ++ outcome.context.display ++ " ----"] ++
      (Text.lines message).map ("    " ++ ·) ++ [""]

/-- The lines of the failures, if there are any. -/
def failuresLines (outcomes : List TestOutcome) : List String :=
  if outcomes.all TestOutcome.isOk then []
  else ["", "failures:", ""] ++ outcomes.flatMap failureLines

/-- The lines at the end of a run that took some seconds. -/
def summaryLines (console : Console) (summary : RunSummary) (seconds : String) : List String :=
  ["", "test result: " ++ console.status (summary.failed == 0) ++ ". " ++
    toString summary.passed ++ " passed; " ++ toString summary.failed ++ " failed; finished in " ++
    seconds ++ "s"]

/-- The lines of a run. -/
def runLines (console : Console) (outcomes : List TestOutcome) (seconds : String) : List String :=
  startLines outcomes.length ++ outcomes.flatMap console.testLines ++
    ["", (resultTable outcomes).draw] ++ failuresLines outcomes ++
    console.summaryLines (RunSummary.ofOutcomes outcomes) seconds

end Console

end Assay
