import Assay.Expr.Evaluate

/-!
# Evaluations

Keys whose values are computed from other keys. The order of declaration means nothing: a key is
evaluated once no key that it refers to is still pending. Rounds of such evaluations go on until
nothing is pending, an evaluation fails, or a round finds no key to evaluate. In the last case
the pending keys are those that lie on a cycle of references or lead to one.
-/

namespace Assay

/-- A failure of evaluations. -/
inductive EvaluationError where
  /-- A key is supplied by the harness. -/
  | reservedKey (key : String)
  /-- The expression of a key cannot be read. -/
  | parse (key : String) (error : ParseError)
  /-- The keys wait for one another. -/
  | cyclicReference (keys : List String)
  /-- The expression of a key has no value. -/
  | runtime (key : String) (source : String) (cause : EvalError)

/-- A failure in words. -/
def EvaluationError.message : EvaluationError → String
  | .reservedKey key => "evaluation key '" ++ key ++ "' is reserved and cannot be redefined"
  | .parse key error =>
    "error parsing evaluation '" ++ key ++ "' ('" ++ error.source ++ "'): " ++ error.message ++
      "\n" ++ error.context
  | .cyclicReference keys =>
    "evaluations have circular references: " ++ ", ".intercalate keys
  | .runtime key source cause =>
    "error evaluating '" ++ key ++ "' ('" ++ source ++ "'): " ++ cause.message

/-- The texts of evaluations, by key. -/
abbrev Evaluations := Mapping String

/-- Evaluations that have been read, by key. -/
abbrev ParsedEvaluations := Mapping Expression

/-- Reads the evaluation of a key that the harness does not supply. -/
def checkEvaluation (key source : String) : Except EvaluationError Expression :=
  if isReserved key then .error (.reservedKey key)
  else (Expression.read source).mapError (.parse key)

/-- Reads all evaluations, up to the first problem in key order. -/
def checkEvaluations (evaluations : Evaluations) : Except EvaluationError ParsedEvaluations :=
  evaluations.tryMap checkEvaluation

/-- The outcome of a test that defines none itself: whether it returned zero. -/
def defaultOutcome : Expression where
  source := "return_value == 0"
  tree := .compare .equal (.reference ⟨"return_value", []⟩) (.literal (.int 0))

/-- The tree of the default outcome is the one that its text is read as. -/
theorem read_defaultOutcome : Expression.read defaultOutcome.source = .ok defaultOutcome := by
  with_unfolding_all rfl

/-- What a resolution leaves behind. -/
structure Resolution where
  /-- The namespace with every value stored before the resolution ended. -/
  results : Namespace
  /-- Why it ended before every key was evaluated, if it did. -/
  failure : Option EvaluationError

/-- Evaluations by key that have not been evaluated yet. -/
abbrev Pending := List (String × Expression)

namespace Pending

/-- Whether a key is pending. -/
def waitsFor (pending : Pending) (key : String) : Bool := pending.any fun entry => entry.1 == key

/-- Whether an expression refers to no pending key. -/
def isReady (pending : Pending) (expression : Expression) : Bool :=
  expression.tree.keys.all fun key => !pending.waitsFor key

/-- Evaluates keys one after the other and stores their values, up to the first failure. -/
def store : Pending → Namespace → Resolution
  | [], results => ⟨results, none⟩
  | (key, expression) :: rest, results =>
    match expression.evaluate results with
    | .ok value => store rest (results.insert key value)
    | .error cause => ⟨results, some (.runtime key expression.source cause)⟩

/-- The keys that a round evaluates. -/
def ready (pending : Pending) : Pending := pending.filter fun entry => pending.isReady entry.2

/-- The keys that a round leaves pending. -/
def waiting (pending : Pending) : Pending := pending.filter fun entry => !pending.isReady entry.2

theorem length_waiting_lt {pending : Pending} (some_ready : pending.ready ≠ []) :
    pending.waiting.length < pending.length := by
  obtain ⟨entry, mem⟩ := List.exists_mem_of_ne_nil _ some_ready
  obtain ⟨inPending, isReady⟩ := List.mem_filter.mp mem
  exact List.length_filter_lt_length_iff_exists.mpr ⟨entry, inPending, by simpa using isReady⟩

/-- Evaluates pending keys round by round. -/
def resolve (pending : Pending) (results : Namespace) : Resolution :=
  if _none_pending : pending = [] then ⟨results, none⟩
  else if _none_ready : pending.ready = [] then
    ⟨results, some (.cyclicReference (pending.map Prod.fst))⟩
  else
    match pending.ready.store results with
    | ⟨results, none⟩ => resolve pending.waiting results
    | failed => failed
termination_by pending.length
decreasing_by exact length_waiting_lt _none_ready

end Pending

/-- The evaluations together with the default outcome, where neither they nor the namespace have
an outcome. -/
def withOutcome (results : Namespace) (evaluations : ParsedEvaluations) : ParsedEvaluations :=
  if results.contains resultKey || evaluations.contains resultKey then evaluations
  else evaluations.insert resultKey defaultOutcome

/-- Evaluates every key and stores its value in the namespace. -/
def evaluateParsed (results : Namespace) (evaluations : ParsedEvaluations) : Resolution :=
  Pending.resolve (withOutcome results evaluations).entries results

/-- Reads and evaluates. When a text cannot be read the namespace stays as it was. -/
def evaluateResults (results : Namespace) (evaluations : Evaluations) : Resolution :=
  match checkEvaluations evaluations with
  | .ok parsed => evaluateParsed results parsed
  | .error failure => ⟨results, some failure⟩

end Assay
