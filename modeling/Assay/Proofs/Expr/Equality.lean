import Assay.Proofs.Expr.Comparison
import Mathlib.Data.List.Forall2

/-!
# Equality of lists

Equality is defined between any two values, and inequality is its negation. Numbers are equal as
numbers, whether they are words or doubles. Inside lists they are taken as they are written, so
that a word and a double are never the same there. Lists are therefore equal if they have equal
values in the same places and at no place a word against a double.
-/

namespace Assay

/-- A word and a double. -/
inductive Value.Mixed : Value → Value → Prop
  /-- The word comes first. -/
  | word (x : Int64) (y : Float) : Mixed (.int x) (.float y)
  /-- The double comes first. -/
  | double (x : Float) (y : Int64) : Mixed (.float x) (.int y)

namespace CompareOp

/-- Two values are found to be equal or not, and unequal in the other case. -/
theorem exists_apply_equal (left right : Value) :
    ∃ truth, equal.apply left right = .ok truth ∧ notEqual.apply left right = .ok !truth := by
  simp only [apply]
  split
  · exact ⟨_, rfl, rfl⟩
  · exact ⟨_, rfl, rfl⟩
  · split
    · exact ⟨_, rfl, rfl⟩
    · exact ⟨_, rfl, rfl⟩

theorem apply_equal_iff {left right : Value} (apart : ¬left.Mixed right) :
    equal.apply left right = .ok true ↔ left.same right = true := by
  cases left with
  | int x =>
      cases right with
      | int y =>
          change Except.ok (some (compare x.toInt y.toInt) == some .eq) = .ok true ↔ (x == y) = true
          rw [Except.ok.injEq, beq_iff_eq, Option.some_inj, compare_eq_iff_eq, Int64.toInt_inj,
            beq_iff_eq]
      | float y => exact absurd (.word x y) apart
      | _ => exact ⟨nofun, nofun⟩
  | float x =>
      cases right with
      | int y => exact absurd (.double x y) apart
      | float y =>
          change Except.ok (Binary64.compare? x y == some .eq) = .ok true ↔ (x == y) = true
          rw [Except.ok.injEq, beq_iff_eq, Binary64.compare?_eq_some_eq_iff]
      | _ => exact ⟨nofun, nofun⟩
  | text x =>
      cases right with
      | text y =>
          change Except.ok (some (compare x y) == some .eq) = .ok true ↔ (x == y) = true
          rw [Except.ok.injEq, beq_iff_eq, Option.some_inj, compare_eq_iff_eq, beq_iff_eq]
      | _ => exact ⟨nofun, nofun⟩
  | _ =>
      -- Neither side can be a number or a text together with the other one.
      cases right <;> exact ⟨Except.ok.inj, congrArg Except.ok⟩

theorem not_same_of_mixed {left right : Value} (mixed : left.Mixed right) :
    left.same right = false := by
  cases mixed <;> rfl

/-- Values are the same if they are found to be equal and are no word against a double. -/
theorem same_iff {left right : Value} :
    left.same right = true ↔ equal.apply left right = .ok true ∧ ¬left.Mixed right := by
  by_cases mixed : left.Mixed right
  · simp [not_same_of_mixed mixed, mixed]
  · rw [apply_equal_iff mixed]
    exact (and_iff_left mixed).symm

theorem sameItems_iff {lefts rights : List Value} :
    Value.sameItems lefts rights = true ↔
      List.Forall₂ (fun left right => left.same right = true) lefts rights := by
  induction lefts generalizing rights with
  | nil => cases rights <;> simp [Value.sameItems]
  | cons left lefts ih => cases rights <;> simp [Value.sameItems, ih]

/-- Two lists are found to be equal exactly if they are equally long and hold equal values in the
same places, nowhere a word against a double; and in the other case they are unequal. -/
theorem equality_of_lists (lefts rights : List Value) :
    ∃ truth, equal.apply (.list lefts) (.list rights) = .ok truth ∧
      notEqual.apply (.list lefts) (.list rights) = .ok !truth ∧
      (truth = true ↔ List.Forall₂
        (fun left right => equal.apply left right = .ok true ∧ ¬left.Mixed right)
        lefts rights) := by
  obtain ⟨truth, found, negated⟩ := exists_apply_equal (.list lefts) (.list rights)
  have apart : ¬Value.Mixed (.list lefts) (.list rights) := nofun
  refine ⟨truth, found, negated, ?_⟩
  calc
    truth = true ↔ equal.apply (.list lefts) (.list rights) = .ok true := by
      rw [found, Except.ok.injEq]
    _ ↔ Value.sameItems lefts rights = true := by
      rw [apply_equal_iff apart, Value.same]
    _ ↔ _ := by
      simp only [sameItems_iff, same_iff]

/-- A word is equal to a double, and yet the lists of them are not. -/
theorem exists_equal_items_of_unequal_lists :
    equal.apply (.int 3) (.float 3) = .ok true ∧
      equal.apply (.list [.int 3]) (.list [.float 3]) = .ok false ∧
      notEqual.apply (.list [.int 3]) (.list [.float 3]) = .ok true :=
  ⟨by with_unfolding_all rfl, rfl, rfl⟩

end CompareOp
end Assay
