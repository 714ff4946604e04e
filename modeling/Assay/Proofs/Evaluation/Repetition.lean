import Assay.Proofs.Evaluation.Cycle
import Assay.Proofs.Evaluation.Solution

/-!
# Resolving again

The results of a resolution solve the evaluations, so a schedule that starts from them stores under
each key the value that the key holds already. It never changes the namespace, no evaluation of it
fails, and no cycle stops it that would not have stopped the first resolution. An outcome that the
first resolution added is there from the start and is not evaluated again.
-/

namespace Assay

variable {results final : Namespace} {evaluations : ParsedEvaluations} {key : String}
  {expression : Expression}

/-- What is evaluated from a solution was evaluated before, for a solution has an outcome. -/
theorem Solves.declared (solves : Solves results evaluations final)
    (declared : Declared final evaluations key expression) :
    Declared results evaluations key expression := by
  cases declared with
  | evaluation found => exact .evaluation found
  | outcome no_result _ =>
      obtain ⟨outcome, found⟩ := solves.exists_outcome
      rw [no_result] at found
      cases found

namespace Progress

variable {later : Progress}

/-- A pending key of a schedule that starts from a solution holds the value of its expression
there. -/
theorem exists_solved (solves : Solves results evaluations final)
    (reaches : (initial final evaluations).Reaches later)
    (mem : (key, expression) ∈ later.pending) :
    ∃ value, final.get? key = some value ∧ expression.evaluate final = .ok value := by
  have at_start := (stable_of_reaches reaches).sublist.subset mem
  exact solves.computed key expression (solves.declared (mem_pending_initial.mp at_start))

/-- A schedule that starts from a solution stores what is there already. -/
theorem results_eq_of_reaches (solves : Solves results evaluations final)
    (reaches : (initial final evaluations).Reaches later) : later.results = final := by
  induction reaches with
  | refl => rfl
  | tail reaches step ih =>
      cases step with
      | @store key expression value eligible evaluated =>
          obtain ⟨held, found, computed⟩ := exists_solved solves reaches eligible.mem
          rw [ih, computed] at evaluated
          obtain rfl : held = value := Except.ok.inj evaluated
          rw [results_store, ih, Mapping.insert_eq_self found]

/-- Resolving the same evaluations again, from the results of a resolution that succeeded, succeeds
and leaves these results as they are. -/
theorem evaluateParsed_again (success : evaluateParsed results evaluations = ⟨final, none⟩) :
    evaluateParsed final evaluations = ⟨final, none⟩ := by
  have solves : Solves results evaluations final := solves_of_success success
  obtain ⟨last, reaches, ends⟩ := schedules_evaluateParsed final evaluations
  have unchanged : last.results = final := results_eq_of_reaches solves reaches
  generalize evaluateParsed final evaluations = resolution at ends
  cases ends with
  | finished _ => rw [unchanged]
  | stuck some_pending none_eligible =>
      obtain ⟨⟨key, expression⟩, mem⟩ := List.exists_mem_of_ne_nil _ some_pending
      have leads : LeadsToCycle final evaluations key :=
        leadsToCycle_of_awaits reaches none_eligible ⟨expression, mem⟩
      have led_before : LeadsToCycle results evaluations key :=
        leads.mono fun _ _ declared => solves.declared declared
      have awaited := awaits_of_leadsToCycle (evaluateParsed_eq_done_iff.mp success) led_before
      exact absurd awaited (not_awaits_of_none_pending rfl key)
  | failed eligible fails =>
      obtain ⟨_, _, computed⟩ := exists_solved solves reaches eligible.mem
      rw [unchanged, computed] at fails
      cases fails

/-- Two evaluations, the first of which reads the text of the second as a number. -/
def spelled : ParsedEvaluations := .ofList [
  ("a", ⟨"b + 1", .binary .add (.reference ⟨"b", []⟩) (.literal (.int 1))⟩),
  ("b", ⟨"\"7\"", .literal (.text "7")⟩)]

/-- The namespace in which these evaluations are solved. -/
def spelledResults : Namespace := .ofList
  [("a", .int 8), ("b", .text "7"), ("result", .bool true), ("return_value", .int 0)]

set_option maxRecDepth 2000 in
/-- The old value of a key is written over and the outcome is added by the first resolution only. -/
theorem evaluateParsed_again_spelled :
    evaluateParsed (.ofList [("a", .text "true"), ("return_value", .int 0)]) spelled =
        ⟨spelledResults, none⟩ ∧
      evaluateParsed spelledResults spelled = ⟨spelledResults, none⟩ := by
  have success :
      evaluateParsed (.ofList [("a", .text "true"), ("return_value", .int 0)]) spelled =
        ⟨spelledResults, none⟩ := by with_unfolding_all rfl
  exact ⟨success, evaluateParsed_again success⟩

end Progress
end Assay
