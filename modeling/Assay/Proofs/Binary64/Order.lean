import Assay.Proofs.Binary64.Packing

/-!
# The order of doubles

A number has its rank by sign, exponent and significand, in this order, with the infinities at both
ends. Doubles that are no NaN compare as their ranks do: their order is total and transitive, and
only the two zeros share a rank.
-/

namespace Assay.Binary64

open Float.Model (UnpackedFloat)
open Float.Model.UnpackedFloat

/-- The rank of an unpacked number. -/
def rankOf : UnpackedFloat → Int ×ₗ Int ×ₗ Int
  | .infinity .negative => toLex (-2, toLex (0, 0))
  | .finite .negative significand exponent _ =>
    toLex (-1, toLex (-exponent, -(significand : Int)))
  | .zero _ | .notANumber => toLex (0, toLex (0, 0))
  | .finite .positive significand exponent _ => toLex (1, toLex (exponent, (significand : Int)))
  | .infinity .positive => toLex (2, toLex (0, 0))

/-- The rank of a double. -/
def rank (x : Float) : Int ×ₗ Int ×ₗ Int := rankOf x.toModel.unpack

theorem compare_natCast (left right : Nat) :
    compare (left : Int) (right : Int) = compare left right := by
  rw [← cmp_eq_compare, ← cmp_eq_compare]
  exact Nat.strictMono_cast.cmp_map_eq left right

theorem compare_neg_neg (left right : Int) :
    compare (-left) (-right) = (compare left right).swap := by
  rw [Int.compare_swap, ← cmp_eq_compare, ← cmp_eq_compare]
  have reversed : StrictAnti fun number : Int => -number := fun _ _ => Int.neg_lt_neg
  exact reversed.cmp_map_eq left right

theorem compare_toLex {α β : Type} [LinearOrder α] [LinearOrder β] (first first' : α)
    (second second' : β) : compare (toLex (first, second)) (toLex (first', second')) =
      (compare first first').then (compare second second') := rfl

/-- Numbers compare as their ranks do. -/
theorem compare_eq_compare_rankOf {left right : UnpackedFloat} (left_number : left.isNaN = false)
    (right_number : right.isNaN = false) :
    left.compare right = some (compare (rankOf left) (rankOf right)) := by
  cases left with
  | notANumber => cases left_number
  | infinity sign =>
      cases right with
      | notANumber => cases right_number
      | infinity sign' => cases sign <;> cases sign' <;> rfl
      | zero sign' => cases sign <;> rfl
      | finite sign' significand' exponent' _ => cases sign <;> cases sign' <;> rfl
  | zero sign =>
      cases right with
      | notANumber => cases right_number
      | infinity sign' => cases sign' <;> rfl
      | zero sign' => rfl
      | finite sign' significand' exponent' _ => cases sign' <;> rfl
  | finite sign significand exponent _ =>
      cases right with
      | notANumber => cases right_number
      | infinity sign' => cases sign <;> cases sign' <;> rfl
      | zero sign' => cases sign <;> rfl
      | finite sign' significand' exponent' _ =>
          cases sign with
          | negative =>
              cases sign' with
              | negative =>
                  rw [rankOf, rankOf, compare_toLex, compare_toLex, compare_neg_neg exponent,
                    compare_neg_neg significand, compare_natCast, ← Ordering.swap_then]
                  rfl
              | positive => rfl
          | positive =>
              cases sign' with
              | negative => rfl
              | positive =>
                  rw [rankOf, rankOf, compare_toLex, compare_toLex, compare_natCast]
                  rfl

/-! ## Doubles -/

variable {x y : Float}

theorem lt_iff_rank_lt (x_number : x.isNaN = false) (y_number : y.isNaN = false) :
    x < y ↔ rank x < rank y := by
  have compared := compare_eq_compare_rankOf x_number y_number
  calc
    x < y ↔ (x.toModel.unpack.compare y.toModel.unpack == some .lt) = true := decide_eq_true_iff
    _ ↔ rank x < rank y := by
      rw [compared, beq_iff_eq, Option.some_inj, compare_lt_iff_lt, rank, rank]

theorem le_iff_rank_le (x_number : x.isNaN = false) (y_number : y.isNaN = false) :
    x ≤ y ↔ rank x ≤ rank y := by
  have compared := compare_eq_compare_rankOf x_number y_number
  calc
    x ≤ y ↔ (x.toModel.unpack.compare y.toModel.unpack).any (·.isLE) = true := decide_eq_true_iff
    _ ↔ rank x ≤ rank y := by
      rw [compared, Option.any_some]
      exact Ordering.ne_gt_iff_isLE.symm.trans compare_le_iff_le

theorem beq_iff_rank_eq (x_number : x.isNaN = false) (y_number : y.isNaN = false) :
    (x == y) = true ↔ rank x = rank y := by
  have compared := compare_eq_compare_rankOf x_number y_number
  change (x.toModel.unpack.compare y.toModel.unpack == some .eq) = true ↔ _
  rw [compared, beq_iff_eq, Option.some_inj, compare_eq_iff_eq, rank, rank]

/-- Numbers stand in the order of their ranks. -/
theorem compare?_eq (x_number : x.isNaN = false) (y_number : y.isNaN = false) :
    compare? x y = some (compare (rank x) (rank y)) := by
  have less := lt_iff_rank_lt x_number y_number
  have greater := lt_iff_rank_lt y_number x_number
  have same := beq_iff_rank_eq x_number y_number
  rcases lt_trichotomy (rank x) (rank y) with ranks | ranks | ranks
  · rw [compare?, if_pos (less.mpr ranks), compare_lt_iff_lt.mpr ranks]
  · rw [compare?, if_neg (mt less.mp ranks.not_lt), if_neg (mt greater.mp ranks.not_gt),
      if_pos (same.mpr ranks), compare_eq_iff_eq.mpr ranks]
  · rw [compare?, if_neg (mt less.mp ranks.not_gt), if_pos (greater.mpr ranks),
      compare_gt_iff_gt.mpr ranks]

/-- No double equals one that is no number. -/
theorem isNaN_of_beq (same : (x == y) = true) : x.isNaN = false ∧ y.isNaN = false := by
  change (x.toModel.unpack.compare y.toModel.unpack == some .eq) = true at same
  change x.toModel.unpack.isNaN = false ∧ y.toModel.unpack.isNaN = false
  generalize x.toModel.unpack = left, y.toModel.unpack = right at same ⊢
  cases left with
  | notANumber => cases same
  | _ =>
      cases right with
      | notANumber => cases same
      | _ => exact ⟨rfl, rfl⟩

/-- Doubles are equal exactly if that is how they stand to each other. -/
theorem compare?_eq_some_eq_iff : compare? x y = some .eq ↔ (x == y) = true := by
  constructor
  · intro compared
    rw [compare?] at compared
    split at compared
    · cases compared
    · split at compared
      · cases compared
      · split at compared
        · assumption
        · cases compared
  · intro same
    obtain ⟨x_number, y_number⟩ := isNaN_of_beq same
    rw [compare?_eq x_number y_number, (beq_iff_rank_eq x_number y_number).mp same]
    simp

end Assay.Binary64
