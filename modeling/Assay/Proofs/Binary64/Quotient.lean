import Assay.Proofs.Binary64.Packing

/-!
# Rounding quotients

A quotient of whole numbers is rounded by two bits of its fraction: whether this is at least a half,
and whether it is anything else than nothing or a half. Shifting a quotient doubles its denominator.
The nearest whole number reaches an even one from half a unit below it.
-/

namespace Assay.Binary64

open Float.Model (Format UnpackedFloat totalExponent)
open Float.Model.UnpackedFloat

/-- A quotient without its fraction, and what rounding has to know of this. -/
def quotient (numerator denominator : Nat) : ExtendedMantissa where
  mantissa := numerator / denominator
  roundBit := decide (denominator ≤ 2 * (numerator % denominator))
  stickyBit := decide
    (numerator % denominator ≠ 0 ∧ 2 * (numerator % denominator) ≠ denominator)

/-- The whole number nearest to a quotient, of two nearest ones the even one. -/
def nearest (numerator denominator : Nat) : Nat :=
  if 2 * (numerator % denominator) < denominator then numerator / denominator
  else if 2 * (numerator % denominator) = denominator then
    numerator / denominator + numerator / denominator % 2
  else numerator / denominator + 1

section

variable {denominator : Nat} (numerator : Nat)

theorem ofMantissaAndAccuracy_quotient (positive : 0 < denominator) :
    ExtendedMantissa.ofMantissaAndAccuracy (numerator / denominator)
      (accuracyOfFraction (numerator % denominator) denominator) =
        quotient numerator denominator := by
  rw [accuracyOfFraction, quotient]
  generalize numerator / denominator = kept
  generalize numerator % denominator = left
  split
  case isTrue exact =>
    rw [decide_eq_false (by omega), decide_eq_false (by omega)]
    rfl
  case isFalse =>
    rcases Nat.lt_trichotomy (2 * left) denominator with below | middle | above
    · rw [Nat.compare_eq_lt.mpr below, decide_eq_false (by omega), decide_eq_true (by omega)]
      rfl
    · rw [Nat.compare_eq_eq.mpr middle, decide_eq_true (by omega), decide_eq_false (by omega)]
      rfl
    · rw [Nat.compare_eq_gt.mpr above, decide_eq_true (by omega), decide_eq_true (by omega)]
      rfl

theorem shiftRightOne_quotient (positive : 0 < denominator) :
    (quotient numerator denominator).shiftRightOne = quotient numerator (denominator * 2) := by
  have kept_eq : numerator / (denominator * 2) = numerator / denominator / 2 := by
    rw [Nat.div_div_eq_div_mul]
  have left_eq : numerator % (denominator * 2) =
      numerator % denominator + denominator * (numerator / denominator % 2) := by
    rw [Nat.mod_mul]
  have left_lt : numerator % denominator < denominator := Nat.mod_lt _ positive
  rw [quotient, quotient, ExtendedMantissa.shiftRightOne, kept_eq, left_eq]
  generalize numerator / denominator = kept
  generalize numerator % denominator = left at left_lt ⊢
  rcases Nat.mod_two_eq_zero_or_one kept with last | last
  · simp only [last, ExtendedMantissa.mk.injEq, Nat.mul_zero, Nat.add_zero, true_and]
    grind
  · simp only [last, ExtendedMantissa.mk.injEq, Nat.mul_one, true_and]
    grind

/-- Shifting a quotient doubles its denominator for each place. -/
theorem shiftRight_quotient (positive : 0 < denominator) (places : Nat) :
    quotient numerator denominator >>> places = quotient numerator (denominator * 2 ^ places) := by
  change places.repeat ExtendedMantissa.shiftRightOne _ = _
  induction places with
  | zero => rw [Nat.repeat, Nat.pow_zero, Nat.mul_one]
  | succ places ih =>
      have scaled_pos : 0 < denominator * 2 ^ places :=
        Nat.mul_pos positive (Nat.two_pow_pos places)
      rw [Nat.repeat, ih, shiftRightOne_quotient numerator scaled_pos, Nat.pow_succ,
        Nat.mul_assoc]

theorem roundedMantissa_quotient (positive : 0 < denominator) :
    (quotient numerator denominator).roundedMantissa = nearest numerator denominator := by
  rw [quotient, nearest]
  generalize numerator / denominator = kept
  generalize numerator % denominator = left
  rcases Nat.lt_trichotomy (2 * left) denominator with below | middle | above
  · rw [if_pos below, decide_eq_false (Nat.not_le_of_lt below)]
    by_cases exact : left = 0
    · rw [decide_eq_false (by omega)]
      rfl
    · rw [decide_eq_true (by omega)]
      rfl
  · rw [if_neg (by omega), if_pos middle, decide_eq_true (by omega), decide_eq_false (by omega)]
    rfl
  · rw [if_neg (by omega), if_neg (by omega), decide_eq_true (by omega),
      decide_eq_true (by omega)]
    rfl

theorem le_nearest (denominator : Nat) :
    numerator / denominator ≤ nearest numerator denominator := by
  rw [nearest]
  split
  · exact Nat.le_refl _
  · split <;> omega

theorem nearest_le (denominator : Nat) :
    nearest numerator denominator ≤ numerator / denominator + 1 := by
  rw [nearest]
  split
  · omega
  · split <;> omega

/-- A greater numerator never has a lesser nearest number. -/
theorem nearest_mono {numerator numerator' : Nat} (ordered : numerator ≤ numerator')
    (denominator : Nat) : nearest numerator denominator ≤ nearest numerator' denominator := by
  rcases Nat.eq_or_lt_of_le (Nat.div_le_div_right (c := denominator) ordered) with same | less
  · have left_le : numerator % denominator ≤ numerator' % denominator := by
      have parts := Nat.div_add_mod numerator denominator
      have parts' := Nat.div_add_mod numerator' denominator
      rw [same] at parts
      omega
    rw [nearest, nearest, same]
    split <;> split <;> (try split) <;> (try split) <;> omega
  · calc
      nearest numerator denominator ≤ numerator / denominator + 1 := nearest_le _ _
      _ ≤ numerator' / denominator := less
      _ ≤ nearest numerator' denominator := le_nearest _ _

/-- The nearest number is at least an even one as soon as the quotient is half a unit below it. -/
theorem le_nearest_iff (positive : 0 < denominator) {bound : Nat} (bound_pos : 0 < bound)
    (even : bound % 2 = 0) :
    bound ≤ nearest numerator denominator ↔ (2 * bound - 1) * denominator ≤ 2 * numerator := by
  have parts := Nat.div_add_mod numerator denominator
  have left_lt : numerator % denominator < denominator := Nat.mod_lt _ positive
  obtain ⟨half, half_eq⟩ : ∃ half, half + 1 = bound := ⟨bound - 1, by omega⟩
  have bound_eq : (2 * bound - 1) * denominator = 2 * (denominator * half) + denominator := by
    rw [← half_eq, show 2 * (half + 1) - 1 = 2 * half + 1 by omega]
    ring
  rw [bound_eq]
  rcases Nat.lt_trichotomy (numerator / denominator) half with below | middle | above
  · have high := nearest_le numerator denominator
    have kept_le : denominator * (numerator / denominator) + denominator ≤ denominator * half :=
      Nat.mul_le_mul_left denominator below
    omega
  · rw [nearest, middle]
    rw [middle] at parts
    split
    · omega
    · split <;> omega
  · have low := le_nearest numerator denominator
    have kept_ge : denominator * half + denominator ≤ denominator * (numerator / denominator) :=
      Nat.mul_le_mul_left denominator above
    omega

end

end Assay.Binary64
