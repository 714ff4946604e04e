import Assay.Evaluation
import Assay.Proofs.Expr.Locality
import Assay.Proofs.Mapping
import Mathlib.Logic.Relation

/-!
# Schedules of evaluations

A schedule evaluates one key at a time. It may pick any pending key that refers to no pending key,
and it ends when nothing is pending, when nothing can be picked, or when the evaluation of a
picked key fails. Resolution by rounds is one schedule among many; what holds of every schedule is
an invariant between the start and any state that is reached.
-/

namespace Assay

/-- A resolution under way. -/
structure Progress where
  /-- The keys that have not been evaluated, with their expressions. -/
  pending : Pending
  /-- The namespace with every value stored so far. -/
  results : Namespace
  /-- The pending keys ascend strictly. -/
  ascending : Mapping.Ascending pending

namespace Progress

theorem eq_of_parts {left right : Progress} (same_pending : left.pending = right.pending)
    (same_results : left.results = right.results) : left = right := by
  obtain ⟨leftPending, leftResults, _⟩ := left
  obtain ⟨rightPending, rightResults, _⟩ := right
  cases same_pending
  cases same_results
  rfl

/-- A key is pending. -/
def Awaits (progress : Progress) (key : String) : Prop :=
  ∃ expression, (key, expression) ∈ progress.pending

/-- A key may be evaluated next: it is pending and refers to no pending key. -/
structure Eligible (progress : Progress) (key : String) (expression : Expression) : Prop where
  /-- The key is pending. -/
  mem : (key, expression) ∈ progress.pending
  /-- What it refers to is not. -/
  free : ∀ reference ∈ expression.tree.keys, ¬progress.Awaits reference

/-- The state after the value of a key is stored. -/
def store (progress : Progress) (key : String) (value : Value) : Progress where
  pending := progress.pending.filter fun entry => entry.1 != key
  results := progress.results.insert key value
  ascending := progress.ascending.sublist (List.filter_sublist.map Prod.fst)

/-- One evaluation of a schedule. -/
inductive Step : Progress → Progress → Prop
  /-- Any key that may be evaluated is evaluated and its value is stored. -/
  | store {progress : Progress} {key : String} {expression : Expression} {value : Value}
      (eligible : progress.Eligible key expression)
      (evaluated : expression.evaluate progress.results = .ok value) :
      Step progress (progress.store key value)

/-- What a schedule may leave behind when it ends in a state. -/
inductive Ends : Progress → Resolution → Prop
  /-- Nothing is pending. -/
  | finished {progress : Progress} (none_pending : progress.pending = []) :
      Ends progress ⟨progress.results, none⟩
  /-- Keys are pending and none of them may be evaluated. -/
  | stuck {progress : Progress} (some_pending : progress.pending ≠ [])
      (none_eligible : ∀ key expression, ¬progress.Eligible key expression) :
      Ends progress
        ⟨progress.results, some (.cyclicReference (progress.pending.map Prod.fst))⟩
  /-- The evaluation of a key that may be evaluated fails. -/
  | failed {progress : Progress} {key : String} {expression : Expression} {cause : EvalError}
      (eligible : progress.Eligible key expression)
      (fails : expression.evaluate progress.results = .error cause) :
      Ends progress ⟨progress.results, some (.runtime key expression.source cause)⟩

/-- Any number of evaluations one after the other. -/
def Reaches : Progress → Progress → Prop := Relation.ReflTransGen Step

/-- Some schedule leaves a resolution behind. -/
def Schedules (start : Progress) (resolution : Resolution) : Prop :=
  ∃ last, Reaches start last ∧ Ends last resolution

variable {progress : Progress} {key other : String} {expression : Expression} {value : Value}

theorem awaits_iff_mem : progress.Awaits key ↔ key ∈ progress.pending.map Prod.fst := by
  simp [Awaits]

theorem not_awaits_of_none_pending (none_pending : progress.pending = []) (key : String) :
    ¬progress.Awaits key := by
  rw [awaits_iff_mem, none_pending]
  exact List.not_mem_nil

@[simp]
theorem mem_pending_store {entry : String × Expression} :
    entry ∈ (progress.store key value).pending ↔ entry ∈ progress.pending ∧ entry.1 ≠ key := by
  simp [store]

theorem pending_store :
    (progress.store key value).pending = progress.pending.filter fun entry => entry.1 != key := rfl

@[simp]
theorem results_store :
    (progress.store key value).results = progress.results.insert key value := rfl

theorem awaits_store :
    (progress.store key value).Awaits other ↔ progress.Awaits other ∧ other ≠ key := by
  simp [Awaits]

/-- A key is pending with one expression only. -/
theorem expression_unique {first second : Expression} (left : (key, first) ∈ progress.pending)
    (right : (key, second) ∈ progress.pending) : first = second := by
  have nodup := progress.ascending.nodup
  rw [← Mapping.lookup_eq_some_iff_mem nodup] at left right
  exact Option.some.inj (left.symm.trans right)

theorem Eligible.awaits (eligible : progress.Eligible key expression) : progress.Awaits key :=
  ⟨expression, eligible.mem⟩

/-- Storing another key leaves a key eligible. -/
theorem Eligible.store (eligible : progress.Eligible key expression) (distinct : key ≠ other) :
    (progress.store other value).Eligible key expression where
  mem := mem_pending_store.mpr ⟨eligible.mem, distinct⟩
  free reference mem awaited := eligible.free reference mem (awaits_store.mp awaited).1

/-- An expression that refers to no pending key keeps its value when a pending key is stored. -/
theorem evaluate_insert (free : ∀ reference ∈ expression.tree.keys, ¬progress.Awaits reference)
    (awaited : progress.Awaits other) :
    expression.evaluate (progress.results.insert other value) =
      expression.evaluate progress.results := by
  apply Expr.evaluate_eq_of_agreeOn
  intro reference mem
  apply Mapping.get?_insert_of_ne
  rintro rfl
  exact free reference mem awaited

/-! ## Rounds are a schedule -/

theorem waitsFor_iff : progress.pending.waitsFor key = true ↔ progress.Awaits key := by
  simp [Pending.waitsFor, awaits_iff_mem]

theorem isReady_iff : progress.pending.isReady expression = true ↔
    ∀ reference ∈ expression.tree.keys, ¬progress.Awaits reference := by
  simp only [Pending.isReady, List.all_eq_true, Bool.not_eq_true', ← waitsFor_iff,
    Bool.not_eq_true]

theorem mem_ready_iff : (key, expression) ∈ progress.pending.ready ↔
    progress.Eligible key expression := by
  rw [Pending.ready, List.mem_filter, isReady_iff]
  exact ⟨fun ⟨mem, free⟩ => ⟨mem, free⟩, fun eligible => ⟨eligible.mem, eligible.free⟩⟩

theorem ready_eq_nil_iff : progress.pending.ready = [] ↔
    ∀ key expression, ¬progress.Eligible key expression := by
  simp only [List.eq_nil_iff_forall_not_mem, Prod.forall, mem_ready_iff]

/-- The state after some values are stored one after the other. -/
def storeAll (progress : Progress) (entries : List (String × Value)) : Progress :=
  entries.foldl (fun progress entry => progress.store entry.1 entry.2) progress

variable {entries : List (String × Value)}

theorem pending_storeAll : (progress.storeAll entries).pending =
    progress.pending.filter fun entry => !(entries.map Prod.fst).contains entry.1 := by
  induction entries generalizing progress with
  | nil => exact (List.filter_eq_self.mpr fun _ _ => rfl).symm
  | cons stored entries ih =>
      rw [storeAll, List.foldl_cons, ← storeAll, ih, pending_store, List.filter_filter]
      apply List.filter_congr
      intro entry _
      simp [Bool.and_comm, bne]

theorem results_storeAll : (progress.storeAll entries).results =
    entries.foldl (fun results entry => results.insert entry.1 entry.2) progress.results := by
  induction entries generalizing progress with
  | nil => rfl
  | cons stored entries ih => exact ih

theorem storeAll_append (back : List (String × Value)) :
    progress.storeAll (entries ++ back) = (progress.storeAll entries).storeAll back :=
  List.foldl_append

@[simp]
theorem mem_pending_storeAll {entry : String × Expression} :
    entry ∈ (progress.storeAll entries).pending ↔
      entry ∈ progress.pending ∧ entry.1 ∉ entries.map Prod.fst := by
  simp [pending_storeAll]

theorem awaits_storeAll : (progress.storeAll entries).Awaits key ↔
    progress.Awaits key ∧ key ∉ entries.map Prod.fst := by
  simp [Awaits]

end Progress

namespace Pending

/-- What a batch stores one after the other, up to the first failure. -/
def written : Pending → Namespace → List (String × Value)
  | [], _ => []
  | (key, expression) :: rest, results =>
    match expression.evaluate results with
    | .ok value => (key, value) :: written rest (results.insert key value)
    | .error _ => []

/-- What resolution by rounds stores one after the other. -/
def history (pending : Pending) (results : Namespace) : List (String × Value) :=
  if _none_ready : pending.ready = [] then []
  else
    match pending.ready.store results with
    | ⟨stored, none⟩ => pending.ready.written results ++ history pending.waiting stored
    | _ => pending.ready.written results
termination_by pending.length
decreasing_by exact length_waiting_lt _none_ready

theorem keys_written (batch : Pending) (results : Namespace) :
    ((batch.written results).map Prod.fst).Sublist (batch.map Prod.fst) := by
  induction batch generalizing results with
  | nil => exact .slnil
  | cons entry batch ih =>
      rw [written]
      split
      · exact (ih _).cons_cons _
      · exact List.nil_sublist _

theorem keys_history (pending : Pending) (results : Namespace) :
    (pending.history results).map Prod.fst ⊆ pending.map Prod.fst := by
  have ready_keys (pending : Pending) (results : Namespace) :
      (pending.ready.written results).map Prod.fst ⊆ pending.map Prod.fst :=
    ((keys_written _ results).trans (List.filter_sublist.map Prod.fst)).subset
  fun_induction history pending results with
  | case1 => exact List.nil_subset _
  | case2 pending results _ stored _ ih =>
      rw [List.map_append, List.append_subset]
      have waiting_keys : pending.waiting.map Prod.fst ⊆ pending.map Prod.fst :=
        (List.filter_sublist.map Prod.fst).subset
      exact ⟨ready_keys pending results, List.Subset.trans ih waiting_keys⟩
  | case3 pending results => exact ready_keys pending results

end Pending

namespace Progress

variable {progress : Progress}

/-- Storing a batch of eligible keys one after the other is a part of a schedule. A failure ends
the schedule, and otherwise every key of the batch is stored. -/
theorem reaches_written (batch : Pending) (progress : Progress)
    (distinct : (batch.map Prod.fst).Nodup)
    (eligible : ∀ entry ∈ batch, progress.Eligible entry.1 entry.2) :
    let last := progress.storeAll (batch.written progress.results)
    progress.Reaches last ∧
    (∀ stored, batch.store progress.results = ⟨stored, none⟩ →
      stored = last.results ∧
        (batch.written progress.results).map Prod.fst = batch.map Prod.fst) ∧
    (∀ stored failure, batch.store progress.results = ⟨stored, some failure⟩ →
      last.Ends ⟨stored, some failure⟩) := by
  induction batch generalizing progress with
  | nil =>
      refine ⟨.refl, fun stored stored_eq => ?_, fun stored failure failed => nomatch failed⟩
      cases stored_eq
      exact ⟨rfl, rfl⟩
  | cons entry batch ih =>
      obtain ⟨key, expression⟩ := entry
      obtain ⟨fresh, batch_distinct⟩ := List.nodup_cons.mp distinct
      have here := eligible _ List.mem_cons_self
      rw [Pending.written, Pending.store]
      cases evaluated : expression.evaluate progress.results with
      | error cause =>
          refine ⟨.refl, fun stored stored_eq => ?_, fun stored failure failed => ?_⟩
          · cases stored_eq
          · cases failed
            exact .failed here evaluated
      | ok value =>
          have step : Step progress (progress.store key value) := .store here evaluated
          have still_eligible (entry : String × Expression) (mem : entry ∈ batch) :
              (progress.store key value).Eligible entry.1 entry.2 := by
            refine (eligible entry (List.mem_cons_of_mem _ mem)).store fun same => fresh ?_
            exact List.mem_map.mpr ⟨entry, mem, same⟩
          obtain ⟨reaches, onward, failing⟩ :=
            ih (progress.store key value) batch_distinct still_eligible
          refine ⟨.head step reaches, fun stored stored_eq => ?_, failing⟩
          obtain ⟨results_eq, keys_eq⟩ := onward stored stored_eq
          exact ⟨results_eq, congrArg (key :: ·) keys_eq⟩

/-- A round leaves pending what it does not evaluate. -/
theorem waiting_eq (progress : Progress) :
    progress.pending.waiting = progress.pending.filter fun entry =>
      !(progress.pending.ready.map Prod.fst).contains entry.1 := by
  apply List.filter_congr
  rintro ⟨key, expression⟩ mem
  have in_ready : key ∈ progress.pending.ready.map Prod.fst ↔
      progress.pending.isReady expression = true := by
    rw [List.mem_map]
    constructor
    · rintro ⟨⟨_, found⟩, found_ready, rfl⟩
      obtain ⟨found_mem, isReady⟩ := List.mem_filter.mp found_ready
      rwa [expression_unique mem found_mem]
    · intro isReady
      exact ⟨(key, expression), List.mem_filter.mpr ⟨mem, isReady⟩, rfl⟩
  rw [Bool.eq_iff_iff, Bool.not_eq_true', Bool.not_eq_true', ← Bool.not_eq_true,
    ← Bool.not_eq_true, List.contains_iff_mem, in_ready]

/-- Resolution by rounds is a schedule, which stores what its history says. -/
theorem ends_history (pending : Pending) (results : Namespace)
    (ascending : Mapping.Ascending pending) :
    let start : Progress := ⟨pending, results, ascending⟩
    let last := start.storeAll (pending.history results)
    start.Reaches last ∧ last.Ends (pending.resolve results) := by
  have ready_distinct (pending : Pending) (ascending : Mapping.Ascending pending) :
      (pending.ready.map Prod.fst).Nodup :=
    Mapping.Ascending.nodup (ascending.sublist (List.filter_sublist.map Prod.fst))
  fun_induction Pending.resolve pending results with
  | case1 results =>
      rw [Pending.history, dif_pos (show Pending.ready [] = [] from rfl)]
      exact ⟨.refl, .finished rfl⟩
  | case2 pending results some_pending none_ready =>
      rw [Pending.history, dif_pos none_ready]
      exact ⟨.refl, .stuck some_pending (ready_eq_nil_iff.mp none_ready)⟩
  | case3 pending results some_pending some_ready stored stored_eq ih =>
      let start : Progress := ⟨pending, results, ascending⟩
      obtain ⟨reaches, onward, _⟩ := reaches_written pending.ready start
        (ready_distinct pending ascending) fun entry mem => mem_ready_iff.mp mem
      obtain ⟨results_eq, keys_eq⟩ := onward stored stored_eq
      let middle := start.storeAll (pending.ready.written results)
      have pending_eq : middle.pending = pending.waiting := by
        rw [pending_storeAll, keys_eq]
        exact start.waiting_eq.symm
      have middle_eq : middle = ⟨pending.waiting, stored, pending_eq ▸ middle.ascending⟩ :=
        eq_of_parts pending_eq results_eq.symm
      obtain ⟨reaches_last, ends⟩ := ih (pending_eq ▸ middle.ascending)
      rw [Pending.history, dif_neg some_ready, stored_eq]
      dsimp only
      rw [storeAll_append]
      rw [← middle_eq] at reaches_last ends
      exact ⟨reaches.trans reaches_last, ends⟩
  | case4 pending results some_pending some_ready failed =>
      let start : Progress := ⟨pending, results, ascending⟩
      obtain ⟨reaches, _, failing⟩ := reaches_written pending.ready start
        (ready_distinct pending ascending) fun entry mem => mem_ready_iff.mp mem
      rw [Pending.history, dif_neg some_ready]
      cases stored_eq : pending.ready.store results with
      | mk stored failure =>
          cases failure with
          | none => exact absurd stored_eq (failed stored)
          | some failure => exact ⟨reaches, failing stored failure stored_eq⟩

/-- Resolution by rounds is a schedule. -/
theorem schedules_resolve (pending : Pending) (results : Namespace)
    (ascending : Mapping.Ascending pending) :
    Schedules ⟨pending, results, ascending⟩ (pending.resolve results) :=
  ⟨_, ends_history pending results ascending⟩

end Progress
end Assay
