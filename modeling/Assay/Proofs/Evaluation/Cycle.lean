import Assay.Proofs.Evaluation.Stability
import Mathlib.Data.Fintype.Pigeonhole
import Mathlib.Data.Set.Finite.Basic

/-!
# Cycles of references

The references between the keys of a resolution form a finite graph. A schedule never evaluates a
key from which a cycle can be reached, and when it is stuck nothing else is pending, since
references among finitely many keys that never leave them must close a cycle. The keys reported
are therefore exactly those that lead to a cycle.
-/

namespace Assay

open Relation

/-- Where every element of a finite type leads on, every element leads to a cycle. -/
theorem exists_cycle {α : Type*} [Finite α] {relation : α → α → Prop}
    (leads_on : ∀ before, ∃ after, relation before after) (start : α) :
    ∃ last, ReflTransGen relation start last ∧ TransGen relation last last := by
  choose next follows using leads_on
  have path (count : Nat) (before : α) : ReflTransGen relation before (next^[count] before) := by
    induction count generalizing before with
    | zero => exact .refl
    | succ count ih => exact .head (follows before) (ih (next before))
  -- An endless walk comes to some element twice.
  obtain ⟨first, second, distinct, same⟩ :=
    Finite.exists_ne_map_eq_of_infinite fun count => next^[count] start
  wlog ordered : first < second generalizing first second
  · exact this second first distinct.symm same.symm (by omega)
  obtain ⟨gap, rfl⟩ := Nat.exists_eq_add_of_lt ordered
  have around : next^[gap] (next (next^[first] start)) = next^[first] start := by
    rw [← Function.iterate_succ_apply, ← Function.iterate_add_apply, Nat.succ_add, Nat.add_comm gap]
    exact same.symm
  have back := path gap (next (next^[first] start))
  rw [around] at back
  exact ⟨next^[first] start, path first start, .head' (follows _) back⟩

section

variable (results : Namespace) (evaluations : ParsedEvaluations)

/-- The expression of a key refers to another key, or to the key itself. -/
def RefersTo (key reference : String) : Prop :=
  ∃ expression, Declared results evaluations key expression ∧ reference ∈ expression.tree.keys ∧
    ∃ other, Declared results evaluations reference other

/-- References lead from a key to a key that lies on a cycle. -/
def LeadsToCycle (key : String) : Prop :=
  ∃ reference, ReflTransGen (RefersTo results evaluations) key reference ∧
    TransGen (RefersTo results evaluations) reference reference

end

/-- More evaluations close no fewer cycles. -/
theorem LeadsToCycle.mono {results later : Namespace} {evaluations further : ParsedEvaluations}
    {key : String}
    (more : ∀ key expression, Declared results evaluations key expression →
      Declared later further key expression)
    (leads : LeadsToCycle results evaluations key) : LeadsToCycle later further key := by
  have refers_mono (before after : String) (refers : RefersTo results evaluations before after) :
      RefersTo later further before after := by
    obtain ⟨expression, declared, mem, other, other_declared⟩ := refers
    exact ⟨expression, more _ _ declared, mem, other, more _ _ other_declared⟩
  obtain ⟨target, path, cycle⟩ := leads
  exact ⟨target, path.lift id refers_mono, cycle.lift id refers_mono⟩

namespace Progress

variable {results : Namespace} {evaluations : ParsedEvaluations} {later : Progress} {key : String}

/-- The way to a cycle starts with a reference. -/
theorem exists_reference_leadsToCycle (leads : LeadsToCycle results evaluations key) :
    ∃ reference, RefersTo results evaluations key reference ∧
      LeadsToCycle results evaluations reference := by
  obtain ⟨target, path, cycle⟩ := leads
  rcases path.cases_head with rfl | ⟨next, refers, onward⟩
  · obtain ⟨next, refers, back⟩ := TransGen.head'_iff.mp cycle
    exact ⟨next, refers, key, back, cycle⟩
  · exact ⟨next, refers, target, onward, cycle⟩

/-- A key that leads to a cycle stays pending. -/
theorem awaits_of_leadsToCycle (reaches : (initial results evaluations).Reaches later)
    (leads : LeadsToCycle results evaluations key) : later.Awaits key := by
  induction reaches generalizing key with
  | refl =>
      obtain ⟨_, ⟨expression, declared, _⟩, _⟩ := exists_reference_leadsToCycle leads
      exact ⟨expression, mem_pending_initial.mpr declared⟩
  | tail reaches step ih =>
      cases step with
      | @store stored expression value eligible evaluated =>
          refine awaits_store.mpr ⟨ih leads, ?_⟩
          rintro rfl
          obtain ⟨reference, ⟨found, declared, refers, _⟩, onward⟩ :=
            exists_reference_leadsToCycle leads
          have expression_eq : found = expression :=
            expression_unique (mem_pending_initial.mpr declared)
              ((stable_of_reaches reaches).sublist.subset eligible.mem)
          exact eligible.free reference (expression_eq ▸ refers) (ih onward)

/-- Where no key may be evaluated every pending key refers to a pending key. -/
theorem exists_reference_awaits (reaches : (initial results evaluations).Reaches later)
    (none_eligible : ∀ key expression, ¬later.Eligible key expression)
    (awaited : later.Awaits key) :
    ∃ reference, RefersTo results evaluations key reference ∧ later.Awaits reference := by
  have stable := stable_of_reaches reaches
  obtain ⟨expression, mem⟩ := awaited
  have blocked : ∃ reference ∈ expression.tree.keys, later.Awaits reference := by
    by_contra free
    simp only [not_exists, not_and] at free
    exact none_eligible key expression ⟨mem, free⟩
  obtain ⟨reference, refers, other, other_mem⟩ := blocked
  refine ⟨reference, ⟨expression, ?_, refers, other, ?_⟩, other, other_mem⟩
  · exact mem_pending_initial.mp (stable.sublist.subset mem)
  · exact mem_pending_initial.mp (stable.sublist.subset other_mem)

/-- Where no key may be evaluated every pending key leads to a cycle. -/
theorem leadsToCycle_of_awaits (reaches : (initial results evaluations).Reaches later)
    (none_eligible : ∀ key expression, ¬later.Eligible key expression)
    (awaited : later.Awaits key) : LeadsToCycle results evaluations key := by
  have finite : Finite {other // later.Awaits other} := by
    have listed : {other | other ∈ later.pending.map Prod.fst}.Finite := List.finite_toSet _
    exact (listed.subset fun other awaited => awaits_iff_mem.mp awaited).to_subtype
  have leads_on (other : {other // later.Awaits other}) :
      ∃ next : {other // later.Awaits other}, RefersTo results evaluations other next := by
    obtain ⟨next, refers, next_awaited⟩ :=
      exists_reference_awaits reaches none_eligible other.2
    exact ⟨⟨next, next_awaited⟩, refers⟩
  obtain ⟨last, path, cycle⟩ := exists_cycle leads_on ⟨key, awaited⟩
  exact ⟨last, path.lift Subtype.val fun _ _ refers => refers,
    cycle.lift Subtype.val fun _ _ refers => refers⟩

/-- A schedule that is stuck has the keys that lead to a cycle pending, and no others. -/
theorem awaits_iff_leadsToCycle (reaches : (initial results evaluations).Reaches later)
    (none_eligible : ∀ key expression, ¬later.Eligible key expression) :
    later.Awaits key ↔ LeadsToCycle results evaluations key :=
  ⟨leadsToCycle_of_awaits reaches none_eligible, awaits_of_leadsToCycle reaches⟩

/-- A cycle is reported only where there is one, and then the report lists the keys that lead to a
cycle in ascending order and all other keys have been evaluated. Where there is a cycle resolution
does not succeed. -/
theorem evaluateParsed_cyclic (results : Namespace) (evaluations : ParsedEvaluations) :
    (∀ keys, (evaluateParsed results evaluations).failure = some (.cyclicReference keys) →
      (∃ key, LeadsToCycle results evaluations key) ∧
      keys.Pairwise (· < ·) ∧
      (∀ key, key ∈ keys ↔ LeadsToCycle results evaluations key) ∧
      ∀ key expression, Declared results evaluations key expression →
        ¬LeadsToCycle results evaluations key →
        ∃ value, (evaluateParsed results evaluations).results.get? key = some value ∧
          expression.evaluate (evaluateParsed results evaluations).results = .ok value) ∧
    ((∃ key, LeadsToCycle results evaluations key) →
      (evaluateParsed results evaluations).failure ≠ none) ∧
    ((∀ key, ¬LeadsToCycle results evaluations key) →
      ∀ keys, (evaluateParsed results evaluations).failure ≠ some (.cyclicReference keys)) := by
  obtain ⟨last, reaches, ends⟩ := schedules_evaluateParsed results evaluations
  generalize evaluateParsed results evaluations = resolution at ends
  cases ends with
  | finished none_pending =>
      refine ⟨nofun, fun ⟨key, leads⟩ => ?_, fun _ _ => nofun⟩
      exact absurd (awaits_of_leadsToCycle reaches leads)
        (not_awaits_of_none_pending none_pending key)
  | failed _ _ => exact ⟨nofun, fun _ => nofun, fun _ _ => nofun⟩
  | stuck some_pending none_eligible =>
      have listed (key : String) :
          key ∈ last.pending.map Prod.fst ↔ LeadsToCycle results evaluations key := by
        rw [← awaits_iff_mem, awaits_iff_leadsToCycle reaches none_eligible]
      obtain ⟨⟨key, expression⟩, mem⟩ := List.exists_mem_of_ne_nil _ some_pending
      have leads : LeadsToCycle results evaluations key :=
        leadsToCycle_of_awaits reaches none_eligible ⟨expression, mem⟩
      refine ⟨?_, fun _ => nofun, fun acyclic => absurd leads (acyclic key)⟩
      rintro _ ⟨⟩
      refine ⟨⟨key, leads⟩, last.ascending, listed, ?_⟩
      intro other otherExpression declared acyclic
      refine ((stable_of_reaches reaches).stored other otherExpression
        (mem_pending_initial.mpr declared) fun awaited => acyclic ?_).1
      exact leadsToCycle_of_awaits reaches none_eligible awaited

/-- A cycle of two keys, a key that leads there besides referring to itself, and a key apart. -/
theorem evaluateParsed_cyclic_pair :
    let evaluations : ParsedEvaluations := .ofList [
      ("a", ⟨"b", .reference ⟨"b", []⟩⟩), ("b", ⟨"a", .reference ⟨"a", []⟩⟩),
      ("c", ⟨"1", .literal (.int 1)⟩),
      ("d", ⟨"a + d", .binary .add (.reference ⟨"a", []⟩) (.reference ⟨"d", []⟩)⟩),
      ("result", ⟨"c", .reference ⟨"c", []⟩⟩)]
    (evaluateParsed .empty evaluations).failure = some (.cyclicReference ["a", "b", "d"]) ∧
      LeadsToCycle .empty evaluations "d" ∧ ¬LeadsToCycle .empty evaluations "result" := by
  intro evaluations
  have cyclic : (evaluateParsed .empty evaluations).failure =
      some (.cyclicReference ["a", "b", "d"]) := by with_unfolding_all rfl
  have listed := ((evaluateParsed_cyclic .empty evaluations).1 _ cyclic).2.2.1
  refine ⟨cyclic, (listed "d").mp (by decide), fun leads => ?_⟩
  exact absurd ((listed "result").mpr leads) (by decide)

end Progress
end Assay
