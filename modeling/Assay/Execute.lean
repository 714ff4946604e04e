import Assay.CommandLine
import Assay.Config.Document
import Assay.Parsers
import Assay.Path
import Assay.Report.Console

/-!
# Carrying out commands

What the program answers to a command line, given the files that it finds and the time that it is
told. The exit code tells whether all went well, a test failed, or nothing could be done.
-/

namespace Assay

/-- What the program answers. -/
structure Answer where
  /-- The exit code. -/
  code : UInt8
  /-- The text for the reader. -/
  stdout : String
  /-- The text on errors and warnings. -/
  stderr : String
  deriving DecidableEq, Repr

/-- The times that a report tells. -/
structure Clock where
  /-- When the run takes place. -/
  timestamp : String
  /-- How many seconds it takes, with one decimal. -/
  seconds : String

/-- The exit code when all went well. -/
def successCode : UInt8 := 0

/-- The exit code when a test failed. -/
def failedCode : UInt8 := 1

/-- The exit code when nothing could be done. -/
def unusableCode : UInt8 := 2

/-- Some lines as a text. -/
def unlines (lines : List String) : String := String.join (lines.map (· ++ "\n"))

/-- Reads and checks the configuration at a path. -/
def loadConfig (files : FileView) (path : String) : Except ConfigError CheckedConfig := do
  let output ← (files path).mapError .io
  match output.failure with
  | some cause => throw (.io cause)
  | none => (← Config.readBytes output.bytes).check

/-- Answers that nothing could be done. -/
def Console.refuse (console : Console) (message : String) : Answer :=
  ⟨unusableCode, "", unlines [console.errorLine message]⟩

/-- Answers that the configuration at a path cannot be used. -/
def Console.refuseConfig (console : Console) (path : String) (error : ConfigError) : Answer :=
  console.refuse (path ++ ": " ++ error.message)

/-- Answers that a configuration can be used. -/
def Console.acceptConfig (console : Console) (config : CheckedConfig) : Answer where
  code := successCode
  stdout := unlines ["ok: " ++ toString config.matchers.size ++ " result parsers, " ++
    toString config.evaluations.size ++ " evaluations"]
  stderr :=
    if config.matchers.isEmpty && config.evaluations.isEmpty then
      unlines [console.warningLine "config declares no result parsers or evaluations"]
    else ""

namespace RunRequest

/-- The keys that the harness supplies for a test. -/
def baseOf (request : RunRequest) (name : String) : Namespace :=
  Mapping.ofList
    ([("name", .text name), ("return_value", .int request.returnValue)] ++ request.base)

/-- The test whose output is at a path. -/
def inputOf (request : RunRequest) (path : String) : TestInput where
  context := ⟨Path.testName path, none⟩
  base := request.baseOf (Path.testName path)
  output := path

/-- What becomes of the tests of a run. -/
def outcomes (request : RunRequest) (config : CheckedConfig) (files : FileView) :
    List TestOutcome :=
  processAll config files (request.outputs.map request.inputOf)

end RunRequest

/-- What becomes of the tests of a request, and the format to show it in, unless nothing can be
done. The format is looked at before the configuration. -/
def Console.prepare (console : Console) (files : FileView) (request : RunRequest) :
    Except Answer (ReportFormat × List TestOutcome) :=
  match ReportFormat.read? request.format with
  | none =>
    .error (console.refuse ("Invalid format: " ++ ReportFormat.unknownMessage request.format))
  | some format =>
    match loadConfig files request.config with
    | .error error => .error (console.refuseConfig request.config error)
    | .ok config => .ok (format, request.outcomes config files)

/-- The text of a run in a format. -/
def Console.reportText (console : Console) (format : ReportFormat) (clock : Clock)
    (outcomes : List TestOutcome) : String :=
  match format with
  | .table => unlines (console.runLines outcomes clock.seconds)
  | .json => unlines [(RunReport.ofOutcomes clock.timestamp outcomes).toJson.toPrettyText]

/-- Answers with the outcomes of a run. -/
def Console.report (console : Console) (format : ReportFormat) (clock : Clock)
    (outcomes : List TestOutcome) : Answer where
  code := if (RunSummary.ofOutcomes outcomes).failed = 0 then successCode else failedCode
  stdout := console.reportText format clock outcomes
  stderr := ""

/-- Answers a request to run. -/
def Console.run (console : Console) (files : FileView) (clock : Clock) (request : RunRequest) :
    Answer :=
  match console.prepare files request with
  | .ok (format, outcomes) => console.report format clock outcomes
  | .error refusal => refusal

/-- The lines that describe a result parser. -/
def ResultParser.lines (parser : ResultParser) : List String :=
  let table : Table :=
    { header := ["Field", "Required", "Description"]
      rows := parser.fields.map fun field =>
        [field.name, if field.required then "yes" else "no", field.help] }
  [parser.name ++ ": " ++ parser.help, table.draw]

/-- Answers a request to check the configuration at a path. -/
def Console.check (console : Console) (files : FileView) (path : String) : Answer :=
  match loadConfig files path with
  | .ok config => console.acceptConfig config
  | .error error => console.refuseConfig path error

/-- Answers with a list of the result parsers. -/
def parsersAnswer : Answer :=
  ⟨successCode, unlines (resultParsers.flatMap ResultParser.lines), ""⟩

/-- Answers a command line that cannot be read. -/
def UsageError.answer (error : UsageError) : Answer :=
  ⟨unusableCode, "", unlines [error.message]⟩

/-- How the lines of a command line's answer are written. -/
def CommandLine.console (line : CommandLine) : Console := ⟨line.verbose, line.color⟩

/-- Answers a command line. -/
def CommandLine.execute (line : CommandLine) (files : FileView) (clock : Clock) : Answer :=
  match line.command with
  | .check path => line.console.check files path
  | .run request => line.console.run files clock request
  | .parsers => parsersAnswer

/-- Answers the words of a command line. -/
def answer (words : List String) (files : FileView) (clock : Clock) : Answer :=
  match CommandLine.read words with
  | .ok line => line.execute files clock
  | .error error => error.answer

end Assay
