import Mathlib.Data.List.Forall2

/-!
# Actions that may fail

When a composed action succeeds, its parts have succeeded, and when it fails, the first of its
parts that fails has failed in the same way.
-/

namespace Assay
namespace Outcome

variable {ε α β : Type} {action : Except ε α}

theorem bind_eq_ok {next : α → Except ε β} {result : β} :
    (action >>= next) = .ok result ↔ ∃ value, action = .ok value ∧ next value = .ok result := by
  cases action with
  | error failure => exact ⟨nofun, nofun⟩
  | ok value => exact ⟨fun run => ⟨value, rfl, run⟩, fun ⟨_, rfl, run⟩ => run⟩

theorem bind_eq_error {next : α → Except ε β} {failure : ε} :
    (action >>= next) = .error failure ↔
      action = .error failure ∨ ∃ value, action = .ok value ∧ next value = .error failure := by
  cases action with
  | error other =>
      exact ⟨fun run => .inl (congrArg _ (Except.error.inj run)), fun
        | .inl run => congrArg _ (Except.error.inj run)
        | .inr ⟨_, run, _⟩ => nomatch run⟩
  | ok value =>
      exact ⟨fun run => .inr ⟨value, rfl, run⟩, fun
        | .inl run => nomatch run
        | .inr ⟨_, rfl, run⟩ => run⟩

theorem map_eq_ok {wrap : α → β} {result : β} :
    action.map wrap = .ok result ↔ ∃ value, action = .ok value ∧ wrap value = result := by
  cases action with
  | error failure => exact ⟨nofun, nofun⟩
  | ok value =>
      constructor
      · intro mapped
        cases mapped
        exact ⟨value, rfl, rfl⟩
      · rintro ⟨_, ⟨⟩, rfl⟩
        rfl

theorem map_eq_error {wrap : α → β} {failure : ε} :
    action.map wrap = .error failure ↔ action = .error failure := by
  cases action with
  | error other =>
      exact ⟨fun run => congrArg _ (Except.error.inj run), fun run =>
        congrArg _ (Except.error.inj run)⟩
  | ok value => exact ⟨nofun, nofun⟩

theorem mapError_eq_ok {wrap : ε → β} {value : α} :
    action.mapError wrap = .ok value ↔ action = .ok value := by
  cases action with
  | error failure => exact ⟨nofun, nofun⟩
  | ok other => exact ⟨fun run => congrArg _ (Except.ok.inj run), fun run =>
      congrArg _ (Except.ok.inj run)⟩

theorem mapError_eq_error {ε' : Type} {wrap : ε → ε'} {failure : ε'} :
    action.mapError wrap = .error failure ↔
      ∃ cause, action = .error cause ∧ wrap cause = failure := by
  cases action with
  | error cause =>
      constructor
      · intro mapped
        cases mapped
        exact ⟨cause, rfl, rfl⟩
      · rintro ⟨_, ⟨⟩, rfl⟩
        rfl
  | ok value => exact ⟨nofun, nofun⟩

/-- Actions one after the other succeed exactly if every one of them does. -/
theorem mapM_eq_ok {step : α → Except ε β} {items : List α} {results : List β} :
    items.mapM step = .ok results ↔
      List.Forall₂ (fun item result => step item = .ok result) items results := by
  induction items generalizing results with
  | nil =>
      rw [List.mapM_nil, List.forall₂_nil_left_iff]
      exact ⟨fun run => (Except.ok.inj run).symm, fun none => none ▸ rfl⟩
  | cons item items ih =>
      simp only [List.mapM_cons, bind_eq_ok, List.forall₂_cons_left_iff, ih]
      constructor
      · rintro ⟨result, here, rest, there, ⟨⟩⟩
        exact ⟨result, rest, here, there, rfl⟩
      · rintro ⟨result, rest, here, there, rfl⟩
        exact ⟨result, here, rest, there, rfl⟩

theorem exists_mapM_iff {step : α → Except ε β} {items : List α} :
    (∃ results, items.mapM step = .ok results) ↔
      ∀ item ∈ items, ∃ result, step item = .ok result := by
  induction items with
  | nil => exact ⟨fun _ => nofun, fun _ => ⟨[], rfl⟩⟩
  | cons item items ih =>
      rw [List.forall_mem_cons, ← ih]
      simp only [List.mapM_cons, bind_eq_ok]
      constructor
      · rintro ⟨_, result, here, results, there, ⟨⟩⟩
        exact ⟨⟨result, here⟩, results, there⟩
      · rintro ⟨⟨result, here⟩, results, there⟩
        exact ⟨_, result, here, results, there, rfl⟩

/-- Actions one after the other fail as the first of them that does. -/
theorem mapM_eq_error {step : α → Except ε β} {items : List α} {failure : ε} :
    items.mapM step = .error failure ↔ ∃ before item after, items = before ++ item :: after ∧
      (∀ other ∈ before, ∃ result, step other = .ok result) ∧ step item = .error failure := by
  induction items with
  | nil =>
      refine ⟨nofun, ?_⟩
      rintro ⟨before, item, after, split, -⟩
      exact absurd split.symm (List.append_ne_nil_of_right_ne_nil _ (List.cons_ne_nil item after))
  | cons item items ih =>
      simp only [List.mapM_cons, bind_eq_error, ih]
      constructor
      · rintro (failed | ⟨result, here, ⟨before, other, after, rfl, earlier, failed⟩ | ⟨_, _, ⟨⟩⟩⟩)
        · exact ⟨[], item, items, rfl, nofun, failed⟩
        · exact ⟨item :: before, other, after, rfl,
            List.forall_mem_cons.mpr ⟨⟨result, here⟩, earlier⟩, failed⟩
      · rintro ⟨before, other, after, split, earlier, failed⟩
        cases before with
        | nil =>
            obtain ⟨rfl, rfl⟩ := List.cons.inj split
            exact .inl failed
        | cons first before =>
            obtain ⟨rfl, rfl⟩ := List.cons.inj split
            obtain ⟨⟨result, here⟩, earlier⟩ := List.forall_mem_cons.mp earlier
            exact .inr ⟨result, here, .inl ⟨before, other, after, rfl, earlier, failed⟩⟩

theorem exists_of_mapM_eq_error {step : α → Except ε β} {items : List α} {failure : ε}
    (failed : items.mapM step = .error failure) : ∃ item ∈ items, step item = .error failure := by
  obtain ⟨before, item, after, rfl, _, failed⟩ := mapM_eq_error.mp failed
  exact ⟨item, by simp, failed⟩

theorem exists_getElem?_of_forall₂ {R : α → β → Prop} {items : List α} {results : List β}
    (related : List.Forall₂ R items results) {place : Nat} {item : α}
    (found : items[place]? = some item) : ∃ result, results[place]? = some result ∧ R item result := by
  induction related generalizing place with
  | nil => cases found
  | @cons _ result _ _ here _ ih =>
      cases place with
      | zero =>
          cases found
          exact ⟨result, rfl, here⟩
      | succ place => exact ih found

end Outcome
end Assay
