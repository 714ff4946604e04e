import Assay.Proofs.Evaluation.Stability

/-!
# The order of evaluation does not matter

Two keys that may be evaluated next do not refer to each other, so either order stores the same
values. Schedules are therefore confluent: all that end without a failed evaluation leave the same
resolution behind, and one failed evaluation makes every schedule end in one.
-/

namespace Assay
namespace Progress

variable {progress start left right later : Progress} {key other : String}
  {expression : Expression} {value : Value}

theorem store_comm (progress : Progress) {first second : String} (distinct : first ≠ second)
    (firstValue secondValue : Value) :
    (progress.store first firstValue).store second secondValue =
      (progress.store second secondValue).store first firstValue := by
  apply eq_of_parts
  · simp only [store, List.filter_filter, Bool.and_comm]
  · exact Mapping.insert_comm _ distinct firstValue secondValue

/-- Two evaluations from one state lead to a common state, if they differ at all. -/
theorem Step.diamond (toLeft : Step progress left) (toRight : Step progress right) :
    left = right ∨ ∃ common, Step left common ∧ Step right common := by
  obtain ⟨leftEligible, leftEvaluated⟩ := toLeft
  rename_i leftKey leftExpression leftValue
  obtain ⟨rightEligible, rightEvaluated⟩ := toRight
  rename_i rightKey rightExpression rightValue
  by_cases same : leftKey = rightKey
  · subst same
    have expression_eq := expression_unique leftEligible.mem rightEligible.mem
    subst expression_eq
    have value_eq : leftValue = rightValue :=
      Except.ok.inj (leftEvaluated.symm.trans rightEvaluated)
    exact .inl (value_eq ▸ rfl)
  · refine .inr ⟨(progress.store leftKey leftValue).store rightKey rightValue, ?_, ?_⟩
    · apply Step.store (rightEligible.store (Ne.symm same))
      rwa [results_store, evaluate_insert rightEligible.free leftEligible.awaits]
    · rw [store_comm progress same]
      apply Step.store (leftEligible.store same)
      rwa [results_store, evaluate_insert leftEligible.free rightEligible.awaits]

/-- A state in which nothing may be evaluated is reached from every state on the way. -/
theorem reaches_of_none_eligible (none_eligible : ∀ key expression, ¬later.Eligible key expression)
    (reaches : start.Reaches later) (middle : start.Reaches left) : left.Reaches later := by
  have one_step (a b c : Progress) (toLeft : Step a b) (toRight : Step a c) :
      ∃ d, Relation.ReflGen Step b d ∧ Relation.ReflTransGen Step c d := by
    rcases toLeft.diamond toRight with rfl | ⟨common, fromLeft, fromRight⟩
    · exact ⟨b, .refl, .refl⟩
    · exact ⟨common, .single fromLeft, .single fromRight⟩
  obtain ⟨common, fromLater, fromLeft⟩ := Relation.church_rosser one_step reaches middle
  rcases fromLater.cases_head with rfl | ⟨next, step, _⟩
  · exact fromLeft
  · obtain ⟨eligible, _⟩ := step
    exact absurd eligible (none_eligible _ _)

/-- A key may be evaluated, and its evaluation fails. -/
def Fails (progress : Progress) (key : String) : Prop :=
  ∃ expression cause, progress.Eligible key expression ∧
    expression.evaluate progress.results = .error cause

/-- The failure of a key waits for the key to be picked. -/
theorem Fails.of_reaches (fails : start.Fails key) (reaches : start.Reaches later) :
    later.Fails key := by
  induction reaches with
  | refl => exact fails
  | tail _ step ih =>
      obtain ⟨expression, cause, eligible, evaluated⟩ := ih
      cases step with
      | @store stored storedExpression value storedEligible storedEvaluated =>
          have distinct : key ≠ stored := by
            rintro rfl
            rw [expression_unique eligible.mem storedEligible.mem, storedEvaluated] at evaluated
            cases evaluated
          refine ⟨expression, cause, eligible.store distinct, ?_⟩
          rwa [results_store, evaluate_insert eligible.free storedEligible.awaits]

/-- The evaluation of some key failed. -/
def EndsInFailure (resolution : Resolution) : Prop :=
  ∃ key source cause, resolution.failure = some (.runtime key source cause)

/-- A schedule ends because a key fails or because no key may be evaluated. -/
theorem Ends.fails_or_none_eligible {resolution : Resolution} (ends : progress.Ends resolution) :
    (∃ key, progress.Fails key) ∧ EndsInFailure resolution ∨
      ∀ key expression, ¬progress.Eligible key expression := by
  cases ends with
  | finished none_pending =>
      exact .inr fun key _ eligible =>
        not_awaits_of_none_pending none_pending key eligible.awaits
  | stuck _ none_eligible => exact .inr none_eligible
  | failed eligible fails => exact .inl ⟨⟨_, _, _, eligible, fails⟩, _, _, _, rfl⟩

/-- Where no key may be evaluated there is one way to end. -/
theorem Ends.unique {first second : Resolution} (left : progress.Ends first)
    (right : progress.Ends second)
    (none_eligible : ∀ key expression, ¬progress.Eligible key expression) : first = second := by
  cases left with
  | finished none_pending =>
      cases right with
      | finished => rfl
      | stuck some_pending => exact absurd none_pending some_pending
      | failed eligible => exact absurd eligible (none_eligible _ _)
  | stuck some_pending =>
      cases right with
      | finished none_pending => exact absurd none_pending some_pending
      | stuck => rfl
      | failed eligible => exact absurd eligible (none_eligible _ _)
  | failed eligible => exact absurd eligible (none_eligible _ _)

/-- Two schedules from one state leave the same behind, or both end in a failed evaluation. -/
theorem schedules_confluent {first second : Resolution} (left : start.Schedules first)
    (right : start.Schedules second) :
    first = second ∨ EndsInFailure first ∧ EndsInFailure second := by
  obtain ⟨leftLast, toLeft, leftEnds⟩ := left
  obtain ⟨rightLast, toRight, rightEnds⟩ := right
  rcases leftEnds.fails_or_none_eligible with ⟨⟨key, fails⟩, leftFailed⟩ | left_done
  · rcases rightEnds.fails_or_none_eligible with ⟨_, rightFailed⟩ | right_done
    · exact .inr ⟨leftFailed, rightFailed⟩
    · obtain ⟨_, _, eligible, _⟩ :=
        fails.of_reaches (reaches_of_none_eligible right_done toRight toLeft)
      exact absurd eligible (right_done _ _)
  · have onward := reaches_of_none_eligible left_done toLeft toRight
    rcases rightEnds.fails_or_none_eligible with ⟨⟨key, fails⟩, _⟩ | right_done
    · obtain ⟨_, _, eligible, _⟩ := fails.of_reaches onward
      exact absurd eligible (left_done _ _)
    · rcases onward.cases_head with rfl | ⟨_, step, _⟩
      · exact .inl (leftEnds.unique rightEnds left_done)
      · obtain ⟨eligible, _⟩ := step
        exact absurd eligible (right_done _ _)

/-- An evaluation leaves fewer keys pending. -/
theorem Step.length_lt (step : Step progress later) :
    later.pending.length < progress.pending.length := by
  obtain ⟨eligible, _⟩ := step
  exact List.length_filter_lt_length_iff_exists.mpr ⟨_, eligible.mem, by simp⟩

/-- No schedule evaluates forever. -/
theorem wellFounded_step : WellFounded fun after before => Step before after :=
  Subrelation.wf Step.length_lt (measure fun progress : Progress => progress.pending.length).wf

/-- However keys are picked, a schedule comes to an end. Where resolution by rounds succeeds or
finds a cycle it ends with the same namespace and the same failure, and where resolution by rounds
ends in a failed evaluation, so does the schedule. -/
theorem schedules_agree {results : Namespace} {evaluations : ParsedEvaluations}
    {progress : Progress} (reached : (initial results evaluations).Reaches progress) :
    (WellFounded fun after before => Step before after) ∧
    (∃ resolution, progress.Schedules resolution) ∧
    ∀ resolution, progress.Ends resolution →
      ((evaluateParsed results evaluations).failure = none →
        resolution = evaluateParsed results evaluations) ∧
      (∀ keys, (evaluateParsed results evaluations).failure = some (.cyclicReference keys) →
        resolution = evaluateParsed results evaluations) ∧
      (∀ key source cause,
        (evaluateParsed results evaluations).failure = some (.runtime key source cause) →
        ∃ otherKey otherSource otherCause,
          resolution.failure = some (.runtime otherKey otherSource otherCause)) := by
  refine ⟨wellFounded_step, ⟨_, schedules_resolve _ _ progress.ascending⟩, ?_⟩
  intro resolution ends
  rcases schedules_confluent ⟨progress, reached, ends⟩
      (schedules_evaluateParsed results evaluations) with same | ⟨failed, byRounds⟩
  · subst same
    exact ⟨fun _ => rfl, fun _ _ => rfl, fun key source cause fails => ⟨key, source, cause, fails⟩⟩
  · obtain ⟨key, source, cause, failure_eq⟩ := byRounds
    rw [failure_eq]
    exact ⟨fun succeeded => (nomatch succeeded), fun _ cyclic => (nomatch cyclic),
      fun _ _ _ _ => failed⟩

/-- Two evaluations, the first of which refers to the second. -/
def chain : ParsedEvaluations := .ofList [
  ("a", ⟨"b + 1", .binary .add (.reference ⟨"b", []⟩) (.literal (.int 1))⟩),
  ("b", ⟨"2", .literal (.int 2)⟩)]

/-- A namespace that already holds something under a key of the chain. -/
def staleResults : Namespace := .ofList [("b", .text "9"), ("return_value", .int 0)]

/-- The chain is evaluated before the default outcome, which is first in resolution by rounds. -/
theorem schedules_agree_of_chain :
    ∃ last, (initial staleResults chain).Reaches last ∧ last.Ends ⟨last.results, none⟩ ∧
      ⟨last.results, none⟩ = evaluateParsed staleResults chain := by
  let one := (initial staleResults chain).store "b" (.int 2)
  let two := one.store "a" (.int 3)
  let three := two.store resultKey (.bool true)
  have toOne : Step (initial staleResults chain) one :=
    .store (mem_ready_iff.mp (by with_unfolding_all exact .head _)) (by with_unfolding_all rfl)
  have toTwo : Step one two :=
    .store (mem_ready_iff.mp (by with_unfolding_all exact .head _)) (by with_unfolding_all rfl)
  have toThree : Step two three :=
    .store (mem_ready_iff.mp (by with_unfolding_all exact .head _)) (by with_unfolding_all rfl)
  have reaches : (initial staleResults chain).Reaches three :=
    .tail (.tail (.single toOne) toTwo) toThree
  have ends : three.Ends ⟨three.results, none⟩ := .finished (by with_unfolding_all rfl)
  exact ⟨three, reaches, ends, ((schedules_agree reaches).2.2 _ ends).1 (by with_unfolding_all rfl)⟩

end Progress
end Assay
