import Assay.Proofs.Evaluation.Schedule

/-!
# What a schedule keeps

A value that a schedule has stored is final: its expression refers to no key that is still
pending, so nothing that is stored later changes what was read. At every state of a schedule the
stored keys are therefore solved in the namespace as it stands, and all other keys hold what they
held at the start.
-/

namespace Assay

/-- The expression of a key in a resolution: one of the evaluations, or the default outcome where
neither they nor the namespace have an outcome. -/
inductive Declared (results : Namespace) (evaluations : ParsedEvaluations) :
    String → Expression → Prop
  /-- An evaluation. -/
  | evaluation {key : String} {expression : Expression}
      (found : evaluations.get? key = some expression) :
      Declared results evaluations key expression
  /-- The default outcome. -/
  | outcome (no_result : results.get? resultKey = none)
      (no_evaluation : evaluations.get? resultKey = none) :
      Declared results evaluations resultKey defaultOutcome

theorem declared_iff {results : Namespace} {evaluations : ParsedEvaluations} {key : String}
    {expression : Expression} :
    Declared results evaluations key expression ↔
      (withOutcome results evaluations).get? key = some expression := by
  rw [withOutcome]
  split
  · rename_i has_outcome
    constructor
    · rintro (found | ⟨no_result, no_evaluation⟩)
      · exact found
      · rw [← Mapping.contains_eq_false_iff] at no_result no_evaluation
        simp [no_result, no_evaluation] at has_outcome
    · exact .evaluation
  · rename_i no_outcome
    simp only [Bool.or_eq_true, not_or, Bool.not_eq_true,
      Mapping.contains_eq_false_iff] at no_outcome
    obtain ⟨no_result, no_evaluation⟩ := no_outcome
    rw [Mapping.get?_insert]
    constructor
    · rintro (found | _)
      · have distinct : key ≠ resultKey := by
          rintro rfl
          rw [no_evaluation] at found
          cases found
        rwa [if_neg distinct]
      · exact if_pos rfl
    · intro found
      split at found
      · rename_i same
        cases found
        exact same ▸ .outcome no_result no_evaluation
      · exact .evaluation found

namespace Progress

/-- The state in which the resolution of evaluations starts. -/
def initial (results : Namespace) (evaluations : ParsedEvaluations) : Progress where
  pending := (withOutcome results evaluations).entries
  results := results
  ascending := Mapping.ascending_entries _

theorem mem_pending_initial {results : Namespace} {evaluations : ParsedEvaluations} {key : String}
    {expression : Expression} :
    (key, expression) ∈ (initial results evaluations).pending ↔
      Declared results evaluations key expression := by
  rw [declared_iff]
  exact Mapping.mem_entries_iff _ key expression

/-- Resolution is a schedule of the evaluations together with the default outcome. -/
theorem schedules_evaluateParsed (results : Namespace) (evaluations : ParsedEvaluations) :
    (initial results evaluations).Schedules (evaluateParsed results evaluations) :=
  schedules_resolve _ results (Mapping.ascending_entries _)

/-- What has become of a schedule between its start and a later state. -/
structure Stable (start later : Progress) : Prop where
  /-- Nothing becomes pending. -/
  sublist : later.pending.Sublist start.pending
  /-- A key that is no longer pending holds the value of its expression in the namespace as it
  stands, and its expression refers to no pending key. -/
  stored : ∀ key expression, (key, expression) ∈ start.pending → ¬later.Awaits key →
    (∃ value, later.results.get? key = some value ∧
      expression.evaluate later.results = .ok value) ∧
    ∀ reference ∈ expression.tree.keys, ¬later.Awaits reference
  /-- Every other key holds what it held. -/
  kept : ∀ key, ¬start.Awaits key ∨ later.Awaits key →
    later.results.get? key = start.results.get? key

variable {start middle later : Progress} {key : String} {expression : Expression} {value : Value}

theorem Stable.refl (start : Progress) : Stable start start where
  sublist := .refl _
  stored _ expression mem stored := absurd ⟨expression, mem⟩ stored
  kept _ _ := rfl

theorem Stable.awaits (stable : Stable start later) (awaited : later.Awaits key) :
    start.Awaits key := by
  obtain ⟨expression, mem⟩ := awaited
  exact ⟨expression, stable.sublist.subset mem⟩

/-- One evaluation keeps the stored values final. -/
theorem Stable.store (stable : Stable start middle) (eligible : middle.Eligible key expression)
    (evaluated : expression.evaluate middle.results = .ok value) :
    Stable start (middle.store key value) where
  sublist := List.filter_sublist.trans stable.sublist
  stored other otherExpression mem notAwaited := by
    have free : ∀ reference ∈ otherExpression.tree.keys, ¬middle.Awaits reference := by
      by_cases same : other = key
      · subst same
        have expression_eq : otherExpression = expression :=
          expression_unique mem (stable.sublist.subset eligible.mem)
        rw [expression_eq]
        exact eligible.free
      · have stored : ¬middle.Awaits other := fun awaited =>
          notAwaited (awaits_store.mpr ⟨awaited, same⟩)
        exact (stable.stored other otherExpression mem stored).2
    refine ⟨?_, fun reference refers awaited => free reference refers (awaits_store.mp awaited).1⟩
    rw [results_store, evaluate_insert free eligible.awaits, Mapping.get?_insert]
    by_cases same : other = key
    · subst same
      have expression_eq : otherExpression = expression :=
        expression_unique mem (stable.sublist.subset eligible.mem)
      rw [if_pos rfl, expression_eq]
      exact ⟨value, rfl, evaluated⟩
    · rw [if_neg same]
      exact (stable.stored other otherExpression mem fun awaited =>
        notAwaited (awaits_store.mpr ⟨awaited, same⟩)).1
  kept other keeps := by
    have distinct : other ≠ key := by
      rintro rfl
      rcases keeps with undeclared | awaited
      · exact undeclared (stable.awaits eligible.awaits)
      · exact (awaits_store.mp awaited).2 rfl
    rw [results_store, Mapping.get?_insert_of_ne _ _ distinct]
    exact stable.kept other (keeps.imp_right fun awaited => (awaits_store.mp awaited).1)

/-- Every state of a schedule is stable. -/
theorem stable_of_reaches (reaches : start.Reaches later) : Stable start later := by
  induction reaches with
  | refl => exact .refl start
  | tail _ step ih =>
      cases step with
      | store eligible evaluated => exact ih.store eligible evaluated

end Progress
end Assay
