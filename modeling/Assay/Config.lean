import Assay.Evaluation
import Assay.Matcher

/-!
# Configurations

A configuration says which values are extracted from a test's output and which ones are evaluated.
It is checked before any output is read: no key is supplied by the harness, none is both extracted
and evaluated, every matcher can be made and every expression can be read.
-/

namespace Assay

/-- A failure of a configuration. -/
inductive ConfigError where
  /-- The file cannot be read. -/
  | io (cause : String)
  /-- The text is no configuration. -/
  | yaml
  /-- The matcher of a key cannot be made. -/
  | matcher (key : String) (cause : MatcherError)
  /-- A key to be extracted is supplied by the harness. -/
  | reservedKey (key : String)
  /-- A key is both extracted and evaluated. -/
  | duplicateKey (key : String)
  /-- The evaluations fail their check. -/
  | evaluation (cause : EvaluationError)

/-- A failure in words. -/
def ConfigError.message : ConfigError → String
  | .io cause => "IO error: " ++ cause
  | .yaml => "YAML parse error"
  | .matcher key cause => "invalid result parser '" ++ key ++ "': " ++ cause.message
  | .reservedKey key => "result parser key '" ++ key ++ "' is reserved and cannot be redefined"
  | .duplicateKey key => "key '" ++ key ++ "' is both parsed and evaluated"
  | .evaluation cause => cause.message

/-- A configuration as it is written. -/
structure Config where
  /-- What is extracted, by key. -/
  specs : Mapping MatchSpec
  /-- What is evaluated, by key. -/
  evaluations : Evaluations

/-- A configuration that is ready to run. -/
structure CheckedConfig where
  /-- What is extracted, by key. -/
  matchers : Mapping Matcher
  /-- What is evaluated, by key. -/
  evaluations : ParsedEvaluations

namespace Config

/-- The configuration that asks for nothing. -/
def empty : Config := ⟨∅, ∅⟩

/-- Checks what is extracted under a key. -/
def checkSpec (config : Config) (key : String) (spec : MatchSpec) :
    Except ConfigError Matcher :=
  if isReserved key then .error (.reservedKey key)
  else if config.evaluations.contains key then .error (.duplicateKey key)
  else spec.validate.mapError (.matcher key)

/-- Checks a configuration, up to the first problem in key order. What is extracted is checked
before what is evaluated. -/
def check (config : Config) : Except ConfigError CheckedConfig := do
  let matchers ← config.specs.tryMap config.checkSpec
  let evaluations ← (checkEvaluations config.evaluations).mapError .evaluation
  return ⟨matchers, evaluations⟩

end Config

end Assay
