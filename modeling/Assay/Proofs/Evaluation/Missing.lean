import Assay.Proofs.Evaluation.Stability
import Assay.Proofs.Expr.Missing

/-!
# Keys that a resolution misses

A key is evaluated when no key that its expression refers to is pending. What it misses then is
missing for good: a key that is declared would have been stored by that time, so a missing key is
declared nowhere, and it was not in the namespace at the start either.
-/

namespace Assay

/-- An expression refers to a key that no evaluation of a resolution stores and that the namespace
does not have at the start. -/
structure Misses (results : Namespace) (evaluations : ParsedEvaluations) (expression : Expression)
    (missing : String) : Prop where
  /-- The key is that of a reference. -/
  refers : Expr.ReferTo missing expression.tree.leaves
  /-- It is neither evaluated nor the outcome that is added. -/
  undeclared : ∀ other, ¬Declared results evaluations missing other
  /-- There is nothing under it. -/
  absent : results.get? missing = none

namespace Progress

variable {results : Namespace} {evaluations : ParsedEvaluations} {later : Progress}
  {key source missing : String} {expression : Expression}

/-- What an evaluation does not find in a state of a schedule is missing from the start. -/
theorem misses_of_evaluate (reaches : (initial results evaluations).Reaches later)
    (eligible : later.Eligible key expression)
    (fails : expression.evaluate later.results = .error (.unknownKey missing)) :
    Misses results evaluations expression missing := by
  have stable : Stable (initial results evaluations) later := stable_of_reaches reaches
  obtain ⟨refers, absent⟩ := Expr.unknownKey_of_evaluate expression.tree fails
  have settled : ¬later.Awaits missing :=
    eligible.free missing ((Expr.mem_keys_iff expression.tree).mpr refers)
  have undeclared (other : Expression) : ¬Declared results evaluations missing other := by
    intro declared
    obtain ⟨⟨value, found, _⟩, _⟩ :=
      stable.stored missing other (mem_pending_initial.mpr declared) settled
    rw [absent] at found
    cases found
  have not_awaited : ¬(initial results evaluations).Awaits missing := by
    rintro ⟨other, mem⟩
    exact undeclared other (mem_pending_initial.mp mem)
  exact ⟨refers, undeclared, (stable.kept missing (.inl not_awaited)).symm.trans absent⟩

/-- A resolution that fails for want of a key was evaluating an expression that misses it. -/
theorem exists_misses (failed : (evaluateParsed results evaluations).failure =
      some (.runtime key source (.unknownKey missing))) :
    ∃ expression, Declared results evaluations key expression ∧ expression.source = source ∧
      Misses results evaluations expression missing := by
  obtain ⟨last, reaches, ends⟩ := schedules_evaluateParsed results evaluations
  generalize evaluateParsed results evaluations = resolution at ends failed
  cases ends with
  | finished _ => cases failed
  | stuck _ _ => cases failed
  | @failed _ expression _ eligible fails =>
      cases failed
      have declared := (stable_of_reaches reaches).sublist.subset eligible.mem
      exact ⟨expression, mem_pending_initial.mp declared, rfl,
        misses_of_evaluate reaches eligible fails⟩

/-- A resolution fails for want of a key only where the expression that it is evaluating misses the
key. Where every reference is to a key that is evaluated, added or there already, it never does. -/
theorem evaluateParsed_unknownKey (results : Namespace) (evaluations : ParsedEvaluations) :
    (∀ key source missing,
      (evaluateParsed results evaluations).failure =
        some (.runtime key source (.unknownKey missing)) →
      ∃ expression, Declared results evaluations key expression ∧ expression.source = source ∧
        Misses results evaluations expression missing) ∧
    ((∀ key expression reference, Declared results evaluations key expression →
        Expr.ReferTo reference expression.tree.leaves →
        (∃ other, Declared results evaluations reference other) ∨
          ∃ value, results.get? reference = some value) →
      ∀ key source missing, (evaluateParsed results evaluations).failure ≠
        some (.runtime key source (.unknownKey missing))) := by
  refine ⟨fun key source missing => exists_misses, fun closed key source missing failed => ?_⟩
  obtain ⟨expression, declared, _, misses⟩ := exists_misses failed
  rcases closed key expression missing declared misses.refers with
    ⟨other, declared⟩ | ⟨value, found⟩
  · exact misses.undeclared other declared
  · rw [misses.absent] at found
    cases found

/-- Two evaluations that refer to a key that is nowhere. The first one never looks at it. -/
def lenient : ParsedEvaluations := .ofList [
  ("a", ⟨"false and gone", .logical .and (.literal (.bool false)) (.reference ⟨"gone", []⟩)⟩),
  ("b", ⟨"a or gone", .logical .or (.reference ⟨"a", []⟩) (.reference ⟨"gone", []⟩)⟩)]

/-- A namespace with what the default outcome refers to, and nothing else. -/
def bareResults : Namespace := .ofList [("return_value", .int 0)]

set_option maxRecDepth 2000 in
/-- The second evaluation misses the key. Where a key is there and only an element is not, no key is
missed. -/
theorem evaluateParsed_unknownKey_lenient :
    let full : Namespace := .ofList [("items", .list []), ("result", .bool true)]
    let strict : ParsedEvaluations := .ofList [("a", ⟨"items.5", .reference ⟨"items", [.index 5]⟩⟩)]
    (evaluateParsed bareResults lenient).failure =
        some (.runtime "b" "a or gone" (.unknownKey "gone")) ∧
      (∃ expression, expression.source = "a or gone" ∧
        Misses bareResults lenient expression "gone") ∧
      ∀ key source missing, (evaluateParsed full strict).failure ≠
        some (.runtime key source (.unknownKey missing)) := by
  intro full strict
  have failed : (evaluateParsed bareResults lenient).failure =
      some (.runtime "b" "a or gone" (.unknownKey "gone")) := by with_unfolding_all rfl
  obtain ⟨expression, _, source_eq, misses⟩ :=
    (evaluateParsed_unknownKey bareResults lenient).1 _ _ _ failed
  refine ⟨failed, ⟨expression, source_eq, misses⟩, (evaluateParsed_unknownKey full strict).2 ?_⟩
  intro key expression reference declared refers
  have entries : (withOutcome full strict).entries =
      [("a", ⟨"items.5", .reference ⟨"items", [.index 5]⟩⟩)] := by with_unfolding_all rfl
  rw [declared_iff, ← Mapping.mem_entries_iff, entries, List.mem_singleton] at declared
  obtain ⟨rfl, rfl⟩ := Prod.mk.inj declared
  obtain rfl : reference = "items" := List.mem_singleton.mp ((Expr.mem_keys_iff _).mpr refers)
  exact .inr ⟨.list [], by with_unfolding_all rfl⟩

end Progress
end Assay
