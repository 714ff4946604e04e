import Assay.Proofs.Evaluation.Stability
import Assay.Proofs.Outcome

/-!
# What a failed resolution leaves behind

A resolution that ends early may have stored some of its keys, even some of a round. Whatever is
stored then is final already: it is the value of its expression in the namespace left behind. All
other keys hold what they held at the start, among them the key whose evaluation failed, and that
evaluation fails in the same way in the namespace left behind.
-/

namespace Assay

/-- What the resolution of evaluations stores, one value after the other. -/
def storedValues (results : Namespace) (evaluations : ParsedEvaluations) : List (String × Value) :=
  Pending.history (withOutcome results evaluations).entries results

/-- A resolution has written some values over an earlier namespace, and they are final. -/
structure Leaves (results : Namespace) (evaluations : ParsedEvaluations)
    (stored : List (String × Value)) (final : Namespace) : Prop where
  /-- The values are what has been written. -/
  written : final = stored.foldl (fun results entry => results.insert entry.1 entry.2) results
  /-- They are written to keys of the resolution. -/
  declared : ∀ key ∈ stored.map Prod.fst, ∃ expression, Declared results evaluations key expression
  /-- Each of these keys holds the value of its expression in the namespace left behind. -/
  computed : ∀ key ∈ stored.map Prod.fst, ∀ expression,
    Declared results evaluations key expression →
    ∃ value, final.get? key = some value ∧ expression.evaluate final = .ok value
  /-- Every other key holds what it held. -/
  kept : ∀ key, key ∉ stored.map Prod.fst → final.get? key = results.get? key

namespace Progress

variable {results : Namespace} {evaluations : ParsedEvaluations} {stored : List (String × Value)}

/-- Reading the evaluations fails at a reserved key or at a text that cannot be read. -/
theorem checkEvaluations_error {texts : Evaluations} {failure : EvaluationError}
    (failed : checkEvaluations texts = .error failure) :
    (∃ key, failure = .reservedKey key) ∨ ∃ key error, failure = .parse key error := by
  rcases Outcome.bind_eq_error.mp failed with reading | ⟨_, _, made⟩
  · obtain ⟨⟨key, text⟩, _, failed⟩ := Outcome.exists_of_mapM_eq_error reading
    rcases Outcome.bind_eq_error.mp failed with checked | ⟨_, _, made⟩
    · rw [checkEvaluation] at checked
      split at checked
      · cases checked
        exact .inl ⟨key, rfl⟩
      · cases read : Expression.read text with
        | error error =>
            rw [read] at checked
            cases checked
            exact .inr ⟨key, error, rfl⟩
        | ok expression =>
            rw [read] at checked
            cases checked
    · cases made
  · cases made

/-- Wherever a resolution ends, what it has stored is final and what is pending is not stored. -/
theorem exists_leaves (results : Namespace) (evaluations : ParsedEvaluations) :
    ∃ last : Progress, last.Ends (evaluateParsed results evaluations) ∧
      Leaves results evaluations (storedValues results evaluations) last.results ∧
      ∀ key expression, (key, expression) ∈ last.pending →
        Declared results evaluations key expression ∧
          key ∉ (storedValues results evaluations).map Prod.fst := by
  obtain ⟨reaches, ends⟩ := ends_history (withOutcome results evaluations).entries results
    (Mapping.ascending_entries _)
  have stable : Stable (initial results evaluations)
      ((initial results evaluations).storeAll (storedValues results evaluations)) :=
    stable_of_reaches reaches
  refine ⟨_, ends, ⟨results_storeAll, fun key mem => ?_, fun key mem expression declared => ?_,
    fun key fresh => stable.kept key ?_⟩, fun key expression mem => ?_⟩
  · have awaited : (initial results evaluations).Awaits key :=
      awaits_iff_mem.mpr (Pending.keys_history _ _ mem)
    obtain ⟨expression, pending⟩ := awaited
    exact ⟨expression, mem_pending_initial.mp pending⟩
  · refine (stable.stored key expression (mem_pending_initial.mpr declared) fun awaited => ?_).1
    exact (awaits_storeAll.mp awaited).2 mem
  · rw [awaits_storeAll]
    exact (Classical.em _).symm.imp_right fun awaited => ⟨awaited, fresh⟩
  · obtain ⟨pending, fresh⟩ := mem_pending_storeAll.mp mem
    exact ⟨mem_pending_initial.mp pending, fresh⟩

/-- A resolution that fails before it starts leaves the namespace as it was. One that fails later
has written final values to some of its keys and nothing else. The key whose evaluation failed is
none of them, and in the namespace left behind its evaluation fails for the same reason. -/
theorem evaluateResults_interrupted (results : Namespace) (texts : Evaluations) :
    (∀ key, (evaluateResults results texts).failure = some (.reservedKey key) →
      (evaluateResults results texts).results = results) ∧
    (∀ key error, (evaluateResults results texts).failure = some (.parse key error) →
      (evaluateResults results texts).results = results) ∧
    (∀ keys, (evaluateResults results texts).failure = some (.cyclicReference keys) →
      ∃ evaluations, checkEvaluations texts = .ok evaluations ∧
        Leaves results evaluations (storedValues results evaluations)
          (evaluateResults results texts).results) ∧
    ∀ key source cause, (evaluateResults results texts).failure = some (.runtime key source cause) →
      ∃ evaluations expression, checkEvaluations texts = .ok evaluations ∧
        Leaves results evaluations (storedValues results evaluations)
          (evaluateResults results texts).results ∧
        Declared results evaluations key expression ∧ expression.source = source ∧
        key ∉ (storedValues results evaluations).map Prod.fst ∧
        (evaluateResults results texts).results.get? key = results.get? key ∧
        expression.evaluate (evaluateResults results texts).results = .error cause := by
  rw [evaluateResults]
  cases checked : checkEvaluations texts with
  | error failure =>
      rcases checkEvaluations_error checked with (⟨key, rfl⟩ | ⟨key, error, rfl⟩)
      · exact ⟨fun _ _ => rfl, fun _ _ => nofun, fun _ => nofun, fun _ _ _ => nofun⟩
      · exact ⟨fun _ => nofun, fun _ _ _ => rfl, fun _ => nofun, fun _ _ _ => nofun⟩
  | ok evaluations =>
      obtain ⟨last, ends, leaves, unstored⟩ := exists_leaves results evaluations
      dsimp only
      generalize evaluateParsed results evaluations = resolution at ends ⊢
      cases ends with
      | finished _ => exact ⟨fun _ => nofun, fun _ _ => nofun, fun _ => nofun, fun _ _ _ => nofun⟩
      | stuck _ _ =>
          exact ⟨fun _ => nofun, fun _ _ => nofun, fun _ _ => ⟨evaluations, rfl, leaves⟩,
            fun _ _ _ => nofun⟩
      | failed eligible fails =>
          refine ⟨fun _ => nofun, fun _ _ => nofun, fun _ => nofun, ?_⟩
          rintro key source cause ⟨⟩
          obtain ⟨declared, fresh⟩ := unstored _ _ eligible.mem
          exact ⟨evaluations, _, rfl, leaves, declared, rfl, fresh, leaves.kept _ fresh, fails⟩

/-- A namespace that already holds something under the last key of the round below. -/
def earlierResults : Namespace := .ofList [("c", .int 7), ("n", .int 4)]

/-- Two keys that are evaluated in the first round, the second of which fails, and one that waits
for the first. -/
def brokenRound : Evaluations := .ofList [("a", "n + 1"), ("b", "a"), ("c", "not n")]

/-- The key that fails keeps its old value, though the key before it is stored. -/
theorem evaluateResults_interrupted_round :
    (evaluateResults earlierResults brokenRound).failure =
        some (.runtime "c" "not n" (.typeMismatch (.needsBool "not" "int"))) ∧
      (evaluateResults earlierResults brokenRound).results.get? "a" = some (.int 5) ∧
      (evaluateResults earlierResults brokenRound).results.get? "c" = earlierResults.get? "c" := by
  have checked : checkEvaluations brokenRound = .ok (.ofList [
      ("a", ⟨"n + 1", .binary .add (.reference ⟨"n", []⟩) (.literal (.int 1))⟩),
      ("b", ⟨"a", .reference ⟨"a", []⟩⟩),
      ("c", ⟨"not n", .unary .not (.reference ⟨"n", []⟩)⟩)]) := by
    with_unfolding_all rfl
  have left : evaluateResults earlierResults brokenRound = ⟨earlierResults.insert "a" (.int 5),
      some (.runtime "c" "not n" (.typeMismatch (.needsBool "not" "int")))⟩ := by
    rw [evaluateResults, checked]
    with_unfolding_all rfl
  have failed := congrArg Resolution.failure left
  obtain ⟨_, _, _, _, _, _, _, kept, _⟩ :=
    (evaluateResults_interrupted earlierResults brokenRound).2.2.2 _ _ _ failed
  refine ⟨failed, ?_, kept⟩
  rw [left]
  exact Mapping.get?_insert_self _ _ _

end Progress
end Assay
