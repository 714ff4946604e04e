import Assay.Proofs.Evaluation.Cycle
import Assay.Proofs.Evaluation.Solution

/-!
# Resolution part by part

Evaluations that refer to no key of some others can be resolved before them. A schedule of theirs
is the beginning of a schedule of all evaluations together, one that leaves the others pending. A
failed evaluation or a cycle that keeps the part from being resolved keeps the whole from being
resolved as well. The two parts one after the other therefore come to the same as both together.
-/

namespace Assay

/-- Some evaluations have no key in common with others and refer to none of their keys. -/
structure Precedes (first second : ParsedEvaluations) : Prop where
  /-- No key is evaluated by both. -/
  disjoint : ∀ key expression, first.get? key = some expression → second.get? key = none
  /-- The first evaluations do not depend on the second ones. -/
  independent : ∀ key expression, first.get? key = some expression →
    ∀ reference ∈ expression.tree.keys, second.get? reference = none

variable {results final : Namespace} {evaluations first second : ParsedEvaluations} {key : String}

/-- Where there is an outcome, none is added. -/
theorem declared_iff_of_outcome
    (outcome : results.contains resultKey = true ∨ evaluations.contains resultKey = true)
    {expression : Expression} :
    Declared results evaluations key expression ↔ evaluations.get? key = some expression := by
  rw [declared_iff, withOutcome, if_pos (Bool.or_eq_true _ _ ▸ outcome)]

theorem get?_union_of_left (precedes : Precedes first second) {expression : Expression}
    (found : first.get? key = some expression) : (first ∪ second).get? key = some expression := by
  rw [Mapping.get?_union, precedes.disjoint key expression found, found]
  rfl

namespace Progress

/-! ## A part of a schedule -/

/-- Besides what is pending in one state, some further evaluations are pending in another. Nothing
that is pending in the first state depends on them. -/
structure Widens (further : ParsedEvaluations) (part whole : Progress) : Prop where
  /-- What is pending in the part, and the further evaluations. -/
  pending : ∀ key expression, (key, expression) ∈ whole.pending ↔
    (key, expression) ∈ part.pending ∨ further.get? key = some expression
  /-- The same values are stored. -/
  results : whole.results = part.results
  /-- No key is pending for both reasons. -/
  disjoint : ∀ key expression, (key, expression) ∈ part.pending → further.get? key = none
  /-- The part refers to no key of the further evaluations. -/
  independent : ∀ key expression, (key, expression) ∈ part.pending →
    ∀ reference ∈ expression.tree.keys, further.get? reference = none

variable {further : ParsedEvaluations} {part whole later : Progress} {expression : Expression}
  {value : Value}

theorem Widens.eligible (widens : Widens further part whole)
    (eligible : part.Eligible key expression) : whole.Eligible key expression where
  mem := (widens.pending key expression).mpr (.inl eligible.mem)
  free reference refers := by
    rintro ⟨other, mem⟩
    rcases (widens.pending reference other).mp mem with awaited | declared
    · exact eligible.free reference refers ⟨other, awaited⟩
    · rw [widens.independent key expression eligible.mem reference refers] at declared
      cases declared

/-- Storing a key of the part leaves the further evaluations pending. -/
theorem Widens.store (widens : Widens further part whole)
    (mem : (key, expression) ∈ part.pending) :
    Widens further (part.store key value) (whole.store key value) where
  pending other otherExpression := by
    rw [mem_pending_store, mem_pending_store, widens.pending]
    -- A further evaluation is not removed, since its key is not the one that is stored.
    have distinct (declared : further.get? other = some otherExpression) : other ≠ key := by
      rintro rfl
      rw [widens.disjoint other expression mem] at declared
      cases declared
    tauto
  results := by rw [results_store, results_store, widens.results]
  disjoint other otherExpression mem :=
    widens.disjoint other otherExpression (mem_pending_store.mp mem).1
  independent other otherExpression mem :=
    widens.independent other otherExpression (mem_pending_store.mp mem).1

theorem Widens.step (widens : Widens further part whole) (step : Step part later) :
    ∃ next, Step whole next ∧ Widens further later next := by
  cases step with
  | @store key expression value eligible evaluated =>
      refine ⟨whole.store key value, .store (widens.eligible eligible) ?_,
        widens.store eligible.mem⟩
      rwa [widens.results]

theorem Widens.reaches (widens : Widens further part whole) (reaches : part.Reaches later) :
    ∃ next, whole.Reaches next ∧ Widens further later next := by
  induction reaches with
  | refl => exact ⟨whole, .refl, widens⟩
  | tail _ step ih =>
      obtain ⟨middle, reaches, widens⟩ := ih
      obtain ⟨next, next_step, widens⟩ := widens.step step
      exact ⟨next, reaches.tail next_step, widens⟩

theorem Widens.fails (widens : Widens further part whole) (fails : part.Fails key) :
    whole.Fails key := by
  obtain ⟨expression, cause, eligible, evaluated⟩ := fails
  exact ⟨expression, cause, widens.eligible eligible, widens.results ▸ evaluated⟩

/-- Once the part is resolved, the further evaluations are left to be resolved from its results. -/
theorem Widens.eq_initial (widens : Widens further (done results) whole)
    (outcome : results.contains resultKey = true) : whole = initial results further := by
  apply eq_of_parts
  · apply whole.ascending.ext (initial results further).ascending
    rintro ⟨key, expression⟩
    rw [widens.pending, mem_pending_initial, declared_iff_of_outcome (.inl outcome)]
    simp [done]
  · exact widens.results

section

variable (precedes : Precedes first second)
  (outcome : results.contains resultKey = true ∨ first.contains resultKey = true)

include precedes outcome

theorem declared_union_iff :
    Declared results (first ∪ second) key expression ↔
      Declared results first key expression ∨ second.get? key = some expression := by
  have union_outcome :
      results.contains resultKey = true ∨ (first ∪ second).contains resultKey = true := by
    refine outcome.imp_right fun declared => ?_
    rw [Mapping.contains_eq_true_iff] at declared ⊢
    obtain ⟨found, declared⟩ := declared
    exact ⟨found, get?_union_of_left precedes declared⟩
  rw [declared_iff_of_outcome outcome, declared_iff_of_outcome union_outcome]
  constructor
  · intro found
    rw [Mapping.get?_union, Option.or_eq_some_iff] at found
    exact (found.imp_right And.right).symm
  · rintro (found | found)
    · exact get?_union_of_left precedes found
    · rw [Mapping.get?_union, found]
      rfl

theorem widens_initial :
    Widens second (initial results first) (initial results (first ∪ second)) where
  pending key expression := by
    rw [mem_pending_initial, mem_pending_initial, declared_union_iff precedes outcome]
  results := rfl
  disjoint key expression mem := by
    rw [mem_pending_initial, declared_iff_of_outcome outcome] at mem
    exact precedes.disjoint key expression mem
  independent key expression mem := by
    rw [mem_pending_initial, declared_iff_of_outcome outcome] at mem
    exact precedes.independent key expression mem

/-- When the first part is resolved, the whole has come to the start of the second part. -/
theorem reaches_second {middle : Namespace}
    (success : evaluateParsed results first = ⟨middle, none⟩) :
    (initial results (first ∪ second)).Reaches (initial middle second) := by
  have reaches := evaluateParsed_eq_done_iff.mp success
  obtain ⟨value, found⟩ := (solves_of_success success).exists_outcome
  have has_outcome : middle.contains resultKey = true :=
    (Mapping.contains_eq_true_iff middle resultKey).mpr ⟨value, found⟩
  obtain ⟨next, next_reaches, widens⟩ := (widens_initial precedes outcome).reaches reaches
  rw [← widens.eq_initial has_outcome]
  exact next_reaches

/-- Whatever stops the first part stops the whole. -/
theorem first_succeeds (toDone : (initial results (first ∪ second)).Reaches (done final)) :
    ∃ middle, evaluateParsed results first = ⟨middle, none⟩ := by
  obtain ⟨last, reaches, ends⟩ := schedules_evaluateParsed results first
  generalize evaluateParsed results first = resolution at ends
  -- The other ways to end are carried over to the whole, where nothing may be left.
  cases ends with
  | finished _ => exact ⟨last.results, rfl⟩
  | stuck some_pending none_eligible =>
      obtain ⟨⟨key, expression⟩, mem⟩ := List.exists_mem_of_ne_nil _ some_pending
      have leads : LeadsToCycle results first key :=
        leadsToCycle_of_awaits reaches none_eligible ⟨expression, mem⟩
      have leads_union : LeadsToCycle results (first ∪ second) key := leads.mono
        fun _ _ declared => (declared_union_iff precedes outcome).mpr (.inl declared)
      have awaited : (done final).Awaits key := awaits_of_leadsToCycle toDone leads_union
      exact absurd awaited (not_awaits_of_none_pending rfl key)
  | @failed key expression cause eligible fails =>
      obtain ⟨next, next_reaches, widens⟩ := (widens_initial precedes outcome).reaches reaches
      have onward : next.Reaches (done final) :=
        reaches_of_none_eligible not_eligible_done toDone next_reaches
      have fails_next : next.Fails key := widens.fails ⟨expression, cause, eligible, fails⟩
      obtain ⟨other, _, eligible_done, _⟩ := fails_next.of_reaches onward
      exact absurd eligible_done (not_eligible_done key other)

end

/-- Evaluations that do not depend on others may be resolved on their own and the others after them,
from the results. This succeeds exactly if resolving all of them together does, with the same
results. -/
theorem evaluateParsed_union_iff (precedes : Precedes first second)
    (outcome : results.contains resultKey = true ∨ first.contains resultKey = true) :
    evaluateParsed results (first ∪ second) = ⟨final, none⟩ ↔
      ∃ middle, evaluateParsed results first = ⟨middle, none⟩ ∧
        evaluateParsed middle second = ⟨final, none⟩ := by
  constructor
  · intro success
    have toDone := evaluateParsed_eq_done_iff.mp success
    obtain ⟨middle, first_success⟩ := first_succeeds precedes outcome toDone
    have toSecond := reaches_second precedes outcome first_success
    have onward := reaches_of_none_eligible not_eligible_done toDone toSecond
    exact ⟨middle, first_success, evaluateParsed_eq_done_iff.mpr onward⟩
  · rintro ⟨middle, first_success, second_success⟩
    have toSecond := reaches_second precedes outcome first_success
    have onward := evaluateParsed_eq_done_iff.mp second_success
    exact evaluateParsed_eq_done_iff.mpr (toSecond.trans onward)

/-- The key of the second part holds something else while the first part is resolved. -/
theorem evaluateParsed_union_iff_stale :
    let first : ParsedEvaluations := .ofList [
      ("a", ⟨"5", .literal (.int 5)⟩), ("result", ⟨"a", .reference ⟨"a", []⟩⟩)]
    let second : ParsedEvaluations := .ofList [("b", ⟨"a", .reference ⟨"a", []⟩⟩)]
    let results : Namespace := .ofList [("b", .text "9")]
    let middle : Namespace := .ofList [("a", .int 5), ("b", .text "9"), ("result", .int 5)]
    let final : Namespace := .ofList [("a", .int 5), ("b", .int 5), ("result", .int 5)]
    Precedes first second ∧ first.contains resultKey = true ∧
      evaluateParsed results first = ⟨middle, none⟩ ∧
      evaluateParsed middle second = ⟨final, none⟩ ∧
      evaluateParsed results (first ∪ second) = ⟨final, none⟩ := by
  intro first second results middle final
  have entries : first.entries = [
      ("a", ⟨"5", .literal (.int 5)⟩), ("result", ⟨"a", .reference ⟨"a", []⟩⟩)] := by
    with_unfolding_all rfl
  have precedes : Precedes first second := by
    constructor
    all_goals
      intro key expression found
      rw [← Mapping.mem_entries_iff, entries] at found
      simp only [List.mem_cons, List.not_mem_nil, or_false, Prod.mk.injEq] at found
    · rcases found with ⟨rfl, rfl⟩ | ⟨rfl, rfl⟩ <;> with_unfolding_all rfl
    · rcases found with ⟨rfl, rfl⟩ | ⟨rfl, rfl⟩ <;> with_unfolding_all decide
  have outcome : first.contains resultKey = true := by with_unfolding_all rfl
  have first_success : evaluateParsed results first = ⟨middle, none⟩ := by with_unfolding_all rfl
  have second_success : evaluateParsed middle second = ⟨final, none⟩ := by with_unfolding_all rfl
  exact ⟨precedes, outcome, first_success, second_success,
    (evaluateParsed_union_iff precedes (.inr outcome)).mpr ⟨middle, first_success, second_success⟩⟩

end Progress
end Assay
