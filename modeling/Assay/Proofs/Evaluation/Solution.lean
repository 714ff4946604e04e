import Assay.Proofs.Evaluation.Confluence

/-!
# Resolution solves the evaluations

A namespace solves some evaluations if every key of theirs holds the value of its expression in
that same namespace, and every other key holds what it held before. When resolution succeeds it
finds the only solution, whatever the keys of the evaluations held before.
-/

namespace Assay

/-- A namespace that is what evaluations make of an earlier one. -/
structure Solves (results : Namespace) (evaluations : ParsedEvaluations) (final : Namespace) :
    Prop where
  /-- Each key holds the value of its expression. -/
  computed : ∀ key expression, Declared results evaluations key expression →
    ∃ value, final.get? key = some value ∧ expression.evaluate final = .ok value
  /-- Other keys hold what they held. -/
  kept : ∀ key, (∀ expression, ¬Declared results evaluations key expression) →
    final.get? key = results.get? key

variable {results stale final : Namespace} {evaluations : ParsedEvaluations}

/-- A solution has an outcome: an earlier one, an evaluated one or the default. -/
theorem Solves.exists_outcome (solves : Solves results evaluations final) :
    ∃ value, final.get? resultKey = some value := by
  by_cases declared : ∃ expression, Declared results evaluations resultKey expression
  · obtain ⟨expression, declared⟩ := declared
    obtain ⟨value, found, _⟩ := solves.computed resultKey expression declared
    exact ⟨value, found⟩
  · rw [not_exists] at declared
    rw [solves.kept resultKey declared]
    cases found : results.get? resultKey with
    | some value => exact ⟨value, rfl⟩
    | none =>
        cases evaluation : evaluations.get? resultKey with
        | some expression => exact absurd (.evaluation evaluation) (declared expression)
        | none => exact absurd (.outcome found evaluation) (declared defaultOutcome)

namespace Progress

variable {left right later : Progress}

theorem awaits_initial {key : String} : (initial results evaluations).Awaits key ↔
    ∃ expression, Declared results evaluations key expression := by
  simp only [Awaits, mem_pending_initial]

/-- Where nothing is pending the evaluations are solved. -/
theorem solves_of_reaches (reaches : (initial results evaluations).Reaches later)
    (none_pending : later.pending = []) : Solves results evaluations later.results := by
  have stable := stable_of_reaches reaches
  constructor
  · intro key expression declared
    exact (stable.stored key expression (mem_pending_initial.mpr declared)
      (not_awaits_of_none_pending none_pending key)).1
  · intro key undeclared
    apply stable.kept key
    left
    rw [awaits_initial]
    exact not_exists.mpr undeclared

/-- The state in which a namespace is all that is left. -/
def done (results : Namespace) : Progress := ⟨[], results, Mapping.ascending_nil⟩

theorem not_eligible_done (key : String) (expression : Expression) :
    ¬(done results).Eligible key expression := fun eligible =>
  not_awaits_of_none_pending rfl key eligible.awaits

/-- Resolution succeeds exactly if some schedule leaves nothing pending. -/
theorem evaluateParsed_eq_done_iff :
    evaluateParsed results evaluations = ⟨final, none⟩ ↔
      (initial results evaluations).Reaches (done final) := by
  have schedule := schedules_evaluateParsed results evaluations
  constructor
  · intro success
    rw [success] at schedule
    obtain ⟨last, reaches, ends⟩ := schedule
    cases ends with
    | finished none_pending =>
        have last_eq : last = done last.results := eq_of_parts none_pending rfl
        exact last_eq ▸ reaches
  · intro reaches
    have finished : (done final).Ends ⟨final, none⟩ := .finished rfl
    rcases schedules_confluent schedule ⟨done final, reaches, finished⟩ with same | ⟨_, failed⟩
    · exact same
    · obtain ⟨_, _, _, ⟨⟩⟩ := failed

theorem solves_of_success (success : evaluateParsed results evaluations = ⟨final, none⟩) :
    Solves results evaluations final :=
  solves_of_reaches (evaluateParsed_eq_done_iff.mp success) rfl

/-- A solution holds what a schedule has stored, for it was computed from keys at which the two
agreed already. -/
theorem solution_agrees (solves : Solves results evaluations final)
    (reaches : (initial results evaluations).Reaches later) (key : String)
    (settled : ¬later.Awaits key) : final.get? key = later.results.get? key := by
  induction reaches generalizing key with
  | refl =>
      rw [awaits_initial, not_exists] at settled
      exact solves.kept key settled
  | @tail middle _ reaches step ih =>
      cases step with
      | @store stored expression value eligible evaluated =>
          rw [results_store, Mapping.get?_insert]
          by_cases same : key = stored
          · subst same
            have same_value : expression.evaluate final = expression.evaluate middle.results :=
              Expr.evaluate_eq_of_agreeOn _ fun reference refers =>
                ih reference (eligible.free reference refers)
            have declared := (stable_of_reaches reaches).sublist.subset eligible.mem
            obtain ⟨solution, found, solution_eq⟩ :=
              solves.computed key expression (mem_pending_initial.mp declared)
            rw [same_value, evaluated] at solution_eq
            cases solution_eq
            rw [found, if_pos rfl]
          · rw [if_neg same]
            exact ih key fun awaited => settled (awaits_store.mpr ⟨awaited, same⟩)

/-- Two states with the same pending keys that agree on all other keys. -/
structure Agrees (left right : Progress) : Prop where
  /-- The same keys are pending. -/
  pending : left.pending = right.pending
  /-- The other keys hold the same. -/
  settled : ∀ key, ¬left.Awaits key → left.results.get? key = right.results.get? key

/-- What a pending key holds has no part in an evaluation. -/
theorem Agrees.step (agrees : Agrees left right) (step : Step left later) :
    ∃ next, Step right next ∧ Agrees later next := by
  cases step with
  | @store key expression value eligible evaluated =>
      have awaits_iff (other : String) : right.Awaits other ↔ left.Awaits other := by
        rw [Awaits, Awaits, agrees.pending]
      have eligible_right : right.Eligible key expression :=
        ⟨agrees.pending ▸ eligible.mem, fun reference refers awaited =>
          eligible.free reference refers ((awaits_iff reference).mp awaited)⟩
      have same_value : expression.evaluate left.results = expression.evaluate right.results :=
        Expr.evaluate_eq_of_agreeOn _ fun reference refers =>
          agrees.settled reference (eligible.free reference refers)
      refine ⟨right.store key value, .store eligible_right (same_value ▸ evaluated), ?_, ?_⟩
      · rw [pending_store, pending_store, agrees.pending]
      · intro other settled
        rw [results_store, results_store, Mapping.get?_insert, Mapping.get?_insert]
        split
        · rfl
        · rename_i distinct
          exact agrees.settled other fun awaited => settled (awaits_store.mpr ⟨awaited, distinct⟩)

theorem Agrees.reaches (agrees : Agrees left right) (reaches : left.Reaches later) :
    ∃ next, right.Reaches next ∧ Agrees later next := by
  induction reaches with
  | refl => exact ⟨right, .refl, agrees⟩
  | tail _ step ih =>
      obtain ⟨next, reaches, agrees⟩ := ih
      obtain ⟨last, last_step, agrees⟩ := agrees.step step
      exact ⟨last, reaches.tail last_step, agrees⟩

/-- What the keys of the evaluations hold makes no difference to the start of a resolution. -/
theorem agrees_initial
    (same : ∀ key, evaluations.get? key = none → stale.get? key = results.get? key) :
    Agrees (initial results evaluations) (initial stale evaluations) where
  pending := by
    have same_outcome : (stale.contains resultKey || evaluations.contains resultKey) =
        (results.contains resultKey || evaluations.contains resultKey) := by
      cases declared : evaluations.contains resultKey with
      | true => simp
      | false =>
          have same_result := same resultKey (Mapping.contains_eq_false_iff _ _ |>.mp declared)
          rw [Bool.eq_iff_iff]
          simp only [Bool.or_false, Mapping.contains_eq_true_iff, same_result]
    simp only [initial, withOutcome, same_outcome]
  settled key undeclared := by
    rw [awaits_initial, not_exists] at undeclared
    refine (same key ?_).symm
    cases found : evaluations.get? key with
    | none => rfl
    | some expression => exact absurd (.evaluation found) (undeclared expression)

/-- A resolution that succeeds has found the only solution of the evaluations. It has an outcome,
and it is the same whatever the keys of the evaluations held before. -/
theorem evaluateParsed_solves (success : evaluateParsed results evaluations = ⟨final, none⟩) :
    Solves results evaluations final ∧
    (∃ value, final.get? resultKey = some value) ∧
    (∀ other, Solves results evaluations other → other = final) ∧
    ∀ stale : Namespace,
      (∀ key, evaluations.get? key = none → stale.get? key = results.get? key) →
        evaluateParsed stale evaluations = ⟨final, none⟩ := by
  have schedule := schedules_evaluateParsed results evaluations
  rw [success] at schedule
  obtain ⟨last, reaches, ends⟩ := schedule
  obtain ⟨none_pending⟩ := ends
  have none_awaited := not_awaits_of_none_pending none_pending
  have solves := solves_of_reaches reaches none_pending
  refine ⟨solves, solves.exists_outcome, ?_, ?_⟩
  · intro other otherSolves
    apply Mapping.ext_get?
    intro key
    exact solution_agrees otherSolves reaches key (none_awaited key)
  · intro stale same
    obtain ⟨next, next_reaches, agrees⟩ := (agrees_initial same).reaches reaches
    have results_eq : last.results = next.results :=
      Mapping.ext_get? fun key => agrees.settled key (none_awaited key)
    have ends : next.Ends ⟨last.results, none⟩ := by
      rw [results_eq]
      exact .finished (agrees.pending ▸ none_pending)
    rcases schedules_confluent (schedules_evaluateParsed stale evaluations)
        ⟨next, next_reaches, ends⟩ with same_end | ⟨_, _, _, _, failed⟩
    · exact same_end
    · cases failed

/-- The chain is solved anew over the stale value of a key of its own. -/
theorem evaluateParsed_solves_chain :
    let final : Namespace := .ofList
      [("a", .int 3), ("b", .int 2), ("result", .bool true), ("return_value", .int 0)]
    evaluateParsed staleResults chain = ⟨final, none⟩ ∧
      ∀ other, Solves staleResults chain other → other = final := by
  intro final
  have success : evaluateParsed staleResults chain = ⟨final, none⟩ := by with_unfolding_all rfl
  exact ⟨success, (evaluateParsed_solves success).2.2.1⟩

end Progress
end Assay
