import Assay.Config

/-!
# Processing tests

A test starts from the keys that the harness supplies. Every matcher reads the whole output anew
and its value is stored; then the evaluations are resolved. The tests of a batch do not affect each
other.
-/

namespace Assay

/-- Which test an output belongs to. -/
structure TestContext where
  /-- The name of the test. -/
  name : String
  /-- What tells it from other tests of its name, if anything does. -/
  id : Option String
  deriving DecidableEq, Repr

/-- A test in words. -/
def TestContext.display (context : TestContext) : String :=
  match context.id with
  | some id => context.name ++ "#" ++ id
  | none => context.name

/-- A failure to process a test. -/
inductive ProcessError where
  /-- The file of the output cannot be opened. -/
  | outputFile (path : String) (cause : String)
  /-- The output cannot be opened for a matcher. -/
  | output (cause : String)
  /-- The matcher of a key cannot run. -/
  | matcher (key : String) (cause : MatcherError)
  /-- The evaluations fail. -/
  | evaluation (cause : EvaluationError)

/-- A failure in words. -/
def ProcessError.message : ProcessError → String
  | .outputFile path cause => "cannot open test output '" ++ path ++ "': " ++ cause
  | .output cause => "cannot read test output: " ++ cause
  | .matcher key cause => "result parser '" ++ key ++ "' failed: " ++ cause.message
  | .evaluation cause => cause.message

/-- How the output of a test is opened: what each attempt yields, counted from zero. -/
abbrev Opener : Type := Nat → Except String Output

/-- The opener with which every attempt yields the same. -/
def Opener.always (attempt : Except String Output) : Opener := fun _ => attempt

/-- Extracts values key by key and stores them, up to the first failure. Every key takes one
attempt to open the output. -/
def extractFrom (opener : Opener) (attempt : Nat) :
    List (String × Matcher) → Namespace → Except ProcessError Namespace
  | [], results => .ok results
  | (key, matcher) :: rest, results =>
    match opener attempt with
    | .error cause => .error (.output cause)
    | .ok output =>
      match matcher.run output with
      | .error cause => .error (.matcher key cause)
      | .ok value => extractFrom opener (attempt + 1) rest (results.insert key value)

/-- Processes a test: extracts, then evaluates. -/
def processResults (config : CheckedConfig) (base : Namespace) (opener : Opener) :
    Except ProcessError Namespace := do
  let extracted ← extractFrom opener 0 config.matchers.entries base
  let resolution := evaluateParsed extracted config.evaluations
  match resolution.failure with
  | none => return resolution.results
  | some cause => throw (.evaluation cause)

/-- What is found at a path: an output that may fail to be read, or why it cannot be opened. -/
abbrev FileView : Type := String → Except String Output

/-- Processes a test whose output is in a file. The file is opened once even if nothing is extracted
from it. -/
def processFile (config : CheckedConfig) (base : Namespace) (files : FileView) (path : String) :
    Except ProcessError Namespace :=
  match files path with
  | .error cause => .error (.outputFile path cause)
  | .ok output => processResults config base (.always (.ok output))

/-- A test of a batch. -/
structure TestInput where
  /-- Which test it is. -/
  context : TestContext
  /-- The keys that the harness supplies. -/
  base : Namespace
  /-- The path of its output. -/
  output : String

/-- What became of a test. -/
structure TestOutcome where
  /-- Which test it is. -/
  context : TestContext
  /-- Its results, or the failure in words. -/
  result : Except String Namespace

/-- Whether a test has results. -/
def TestOutcome.isOk (outcome : TestOutcome) : Bool :=
  match outcome.result with
  | .ok _ => true
  | .error _ => false

/-- Processes a test of a batch. -/
def TestInput.process (config : CheckedConfig) (files : FileView) (input : TestInput) :
    TestOutcome where
  context := input.context
  result :=
    (processFile config input.base files input.output).mapError ProcessError.message

/-- Processes every test of a batch. -/
def processAll (config : CheckedConfig) (files : FileView) (inputs : List TestInput) :
    List TestOutcome :=
  inputs.map (TestInput.process config files)

end Assay
