import Assay.Proofs.Binary64.Overflow
import Assay.Proofs.Decimal.Reading

/-!
# Decimals that overflow

The double of a decimal is infinite exactly if the decimal is at least half a unit above the
greatest finite double. Small digits with a small power of ten are multiplied or divided as doubles,
which stays far below that, and all others are rounded from their exact value.
-/

namespace Assay

namespace Binary64

open Float.Model (Format UnpackedFloat)
open Float.Model.UnpackedFloat

/-! ## Small operands -/

/-- Whether a number is zero, or has no more than 53 bits and an exponent that is small either
way. -/
def isModerate : UnpackedFloat → Bool
  | .zero _ => true
  | .finite _ significand exponent _ =>
    decide (significand < 2 ^ 53) && decide (-100 ≤ exponent) && decide (exponent ≤ 100)
  | _ => false

theorem isModerate_powerOfTen :
    ∀ places, (bound : places < Float.exactlyRepresentablePowersOfTen.size) →
      isModerate Float.exactlyRepresentablePowersOfTen[places].toModel.unpack = true := by
  decide

theorem isModerate_toFloat {digits : Nat} (small : digits < 2 ^ 53) :
    isModerate digits.toUInt64.toFloat.toModel.unpack = true := by
  have toNat_eq : digits.toUInt64.toNat = digits := by
    rw [Nat.toUInt64, UInt64.toNat_ofNat']
    exact Nat.mod_eq_of_lt (by omega)
  have model_eq : digits.toUInt64.toFloat.toModel = Float.Model.pack
      (UnpackedFloat.normalize Format.binary64 digits.toUInt64.toNat 0 .positive) := rfl
  rw [model_eq, toNat_eq]
  rcases Nat.eq_zero_or_pos digits with rfl | positive
  · rfl
  · have nonzero : (digits : Int) ≠ 0 := by omega
    obtain ⟨significand, exponent, significand_pos, rounded, -, low, high, above, below⟩ :=
      exists_round_eq positive (by omega) (signOf (decide ((digits : Int) < 0)))
    rw [normalize_eq_round nonzero, Int.natAbs_natCast, rounded,
      unpack_pack_finite significand_pos low high (by omega) (by omega), isModerate]
    simp only [Bool.and_eq_true, decide_eq_true_eq]
    omega

section

variable {left right : UnpackedFloat}

theorem isModerate_finite {sign : Sign} {significand : Nat} {exponent : Int}
    {positive : 0 < significand}
    (moderate : isModerate (.finite sign significand exponent positive) = true) :
    (significand : ℚ) ≤ 2 ^ 53 ∧ -100 ≤ exponent ∧ exponent ≤ 100 := by
  simp only [isModerate, Bool.and_eq_true, decide_eq_true_eq] at moderate
  obtain ⟨⟨bound, low⟩, high⟩ := moderate
  exact ⟨by exact_mod_cast bound.le, low, high⟩

theorem lt_overflow_of_le {significand : ℚ} {exponent : Int} (bound : significand ≤ 2 ^ 106)
    (below : exponent ≤ 200) :
    significand * 2 ^ exponent < overflow := by
  have scale_le : (2 : ℚ) ^ exponent ≤ 2 ^ 200 := by
    rw [← zpow_natCast]
    exact zpow_le_zpow_right₀ one_le_two below
  calc
    significand * 2 ^ exponent ≤ 2 ^ 106 * 2 ^ 200 := by gcongr
    _ = 2 ^ 306 := by rw [← pow_add]
    _ < 2 ^ 1023 := pow_lt_pow_right₀ one_lt_two (by decide)
    _ ≤ overflow := two_pow_le_overflow

theorem isFinite_mul_of_isModerate (left_ok : isModerate left = true)
    (right_ok : isModerate right = true) :
    (Float.Model.pack (mul Format.binary64 left right)).unpack.isFinite = true := by
  cases left with
  | infinity _ | notANumber => cases left_ok
  | zero sign =>
      cases right with
      | infinity _ | notANumber => cases right_ok
      | zero sign' | finite sign' _ _ _ => exact isFinite_unpack_pack_zero (sign * sign')
  | finite sign significand exponent positive =>
      cases right with
      | infinity _ | notANumber => cases right_ok
      | zero sign' => exact isFinite_unpack_pack_zero (sign * sign')
      | finite sign' significand' exponent' positive' =>
          obtain ⟨bound, low, high⟩ := isModerate_finite left_ok
          obtain ⟨bound', low', high'⟩ := isModerate_finite right_ok
          refine (isFinite_mul_iff (by omega)).mpr (lt_overflow_of_le ?_ (by omega))
          calc
            (significand * significand' : ℚ) ≤ 2 ^ 53 * 2 ^ 53 := by gcongr
            _ = 2 ^ 106 := by rw [← pow_add]

theorem isFinite_div_of_isModerate (left_ok : isModerate left = true)
    (right_ok : isModerate right = true) (right_proper : isProper right = true) :
    (Float.Model.pack (div Format.binary64 left right)).unpack.isFinite = true := by
  cases right with
  | infinity _ | notANumber | zero _ => cases right_proper
  | finite sign' significand' exponent' positive' =>
      cases left with
      | infinity _ | notANumber => cases left_ok
      | zero sign => exact isFinite_unpack_pack_zero (sign / sign')
      | finite sign significand exponent positive =>
          obtain ⟨bound, low, high⟩ := isModerate_finite left_ok
          obtain ⟨bound', low', high'⟩ := isModerate_finite right_ok
          refine (isFinite_div_iff (by omega)).mpr (lt_overflow_of_le ?_ (by omega))
          have one_le : (1 : ℚ) ≤ significand' := by exact_mod_cast positive'
          calc
            (significand / significand' : ℚ) ≤ significand := div_le_self (by positivity) one_le
            _ ≤ 2 ^ 53 := bound
            _ ≤ 2 ^ 106 := pow_le_pow_right₀ one_le_two (by decide)

end

/-! ## Digits with a power of ten -/

theorem overflow_pos : 0 < overflow := lt_of_lt_of_le (pow_pos two_pos 1023) two_pow_le_overflow

/-- What has more than 400 places in front of the point overflows. -/
theorem overflow_le_of_ten_pow_le {digits places : Nat} {exponent : Int}
    (bound : 10 ^ places ≤ digits) (above : 400 ≤ exponent + places) :
    overflow ≤ digits * 10 ^ exponent := by
  have digits_ge : (10 : ℚ) ^ places ≤ digits := by exact_mod_cast bound
  calc
    overflow ≤ 10 ^ 400 := overflow_le_ten_pow
    _ = 10 ^ (400 : Int) := rfl
    _ ≤ 10 ^ (exponent + places) := zpow_le_zpow_right₀ (by norm_num) above
    _ = 10 ^ places * 10 ^ exponent := by
      rw [zpow_add₀ (by norm_num), zpow_natCast, mul_comm]
    _ ≤ digits * 10 ^ exponent := by gcongr

/-- What has no more than 100 places in front of the point does not overflow. -/
theorem lt_overflow_of_lt_ten_pow {digits places : Nat} {exponent : Int}
    (bound : digits < 10 ^ places) (below : exponent + places ≤ 100) :
    digits * 10 ^ exponent < overflow := by
  have digits_le : (digits : ℚ) ≤ 10 ^ places := by exact_mod_cast bound.le
  calc
    (digits * 10 ^ exponent : ℚ) ≤ 10 ^ places * 10 ^ exponent := by gcongr
    _ = 10 ^ (exponent + places) := by rw [zpow_add₀ (by norm_num), zpow_natCast, mul_comm]
    _ ≤ 10 ^ (100 : Int) := zpow_le_zpow_right₀ (by norm_num) below
    _ = 10 ^ 100 := rfl
    _ ≤ (2 ^ 4) ^ 100 := pow_le_pow_left₀ (by norm_num) (by norm_num) 100
    _ = 2 ^ 400 := (pow_mul 2 4 100).symm
    _ < 2 ^ 1023 := pow_lt_pow_right₀ one_lt_two (by decide)
    _ ≤ overflow := two_pow_le_overflow

theorem isFinite_ofScientific_unpacked_iff (digits : Nat) (exponent : Int) :
    (Float.Model.pack (ofScientific Format.binary64 digits exponent)).unpack.isFinite = true ↔
      (digits * 10 ^ exponent : ℚ) < overflow := by
  rw [ofScientific]
  split
  case isTrue zero =>
    refine iff_of_true (isFinite_unpack_pack_zero _) ?_
    rw [zero, Nat.cast_zero, zero_mul]
    exact overflow_pos
  case isFalse nonzero =>
  split
  case isTrue above =>
    change exponent > 2 ^ 11 at above
    have one_le : 10 ^ 0 ≤ digits := Nat.one_le_iff_ne_zero.mpr nonzero
    exact iff_of_false (by decide) (not_lt.mpr (overflow_le_of_ten_pow_le one_le (by omega)))
  case isFalse =>
  split
  case isTrue below =>
    change exponent < -((2 ^ 11 : Int) + digits.log2) at below
    refine iff_of_true (isFinite_unpack_pack_zero _) ?_
    have bound : digits < 10 ^ (digits.log2 + 1) :=
      lt_of_lt_of_le Nat.lt_log2_self (Nat.pow_le_pow_left (by decide) _)
    exact lt_overflow_of_lt_ten_pow bound (by omega)
  case isFalse =>
  split
  case isTrue nonneg =>
    obtain ⟨places, rfl⟩ := Int.eq_ofNat_of_zero_le nonneg
    have value_eq : ((digits <<< 53 : Nat) * (10 ^ places : Nat) * 2 ^ (-53 + 0 : Int) : ℚ) =
        digits * 10 ^ (places : Int) := by
      rw [Nat.shiftLeft_eq, zpow_natCast, add_zero, zpow_neg]
      push_cast
      field_simp
    rw [isFinite_mul_iff (by decide), ← value_eq]
    rfl
  case isFalse negative =>
    obtain ⟨places, rfl⟩ : ∃ places : Nat, exponent = -places :=
      ⟨(-exponent).toNat, by omega⟩
    have value_eq : (digits / (10 ^ places : Nat) * 2 ^ (0 - 0 : Int) : ℚ) =
        digits * 10 ^ (-(places : Int)) := by
      rw [sub_zero, zpow_zero, mul_one, zpow_neg, zpow_natCast, Nat.cast_pow, Nat.cast_ofNat,
        div_eq_mul_inv]
    rw [isFinite_div_iff (by decide), ← value_eq, neg_neg, Int.toNat_natCast]

/-- The double of digits with a power of ten is finite if they do not overflow. -/
theorem isFinite_ofScientific_iff (digits : Nat) (negative : Bool) (places : Nat) :
    (Float.ofScientific digits negative places).isFinite = true ↔
      (digits * 10 ^ (if negative then -(places : Int) else places) : ℚ) < overflow := by
  rw [Float.ofScientific]
  split
  case isTrue small =>
    have digits_ok := isModerate_toFloat small.1
    have power_ok := isModerate_powerOfTen places (Nat.lt_succ_of_le small.2)
    have power_proper := isProper_powerOfTen places (Nat.lt_succ_of_le small.2)
    have bound : digits < 10 ^ 16 := Nat.lt_trans small.1 (by decide)
    refine iff_of_true ?_ (lt_overflow_of_lt_ten_pow bound (by split <;> omega))
    cases negative with
    | true => exact isFinite_div_of_isModerate digits_ok power_ok power_proper
    | false => exact isFinite_mul_of_isModerate digits_ok power_ok
  case isFalse =>
    cases negative with
    | true =>
        have negative_eq : Int.negOfNat places = -(places : Int) := Int.negOfNat_eq
        rw [if_pos rfl, ← negative_eq]
        exact isFinite_ofScientific_unpacked_iff digits (Int.negOfNat places)
    | false => exact isFinite_ofScientific_unpacked_iff digits places

end Binary64

namespace Decimal

theorem lt_ten_pow_length (number : Nat) : number < 10 ^ length number :=
  (Nat.length_toDigits_le_iff (by decide) Nat.length_toDigits_pos).mp (Nat.le_refl _)

theorem ten_pow_length_le {number : Nat} (nonzero : number ≠ 0) :
    10 ^ (length number - 1) ≤ number := by
  rcases Nat.eq_zero_or_pos (length number - 1) with single | more
  · rw [single]
    exact Nat.one_le_iff_ne_zero.mpr nonzero
  · refine Nat.not_lt.mp fun bound => ?_
    have shorter : length number ≤ length number - 1 :=
      (Nat.length_toDigits_le_iff (by decide) more).mpr bound
    omega

/-- The number that a decimal is. -/
def value (number : Decimal) : ℚ := number.digits * 10 ^ number.exponent

/-- The double of a decimal is infinite exactly if the decimal overflows. -/
theorem isFinite_toFloat_iff (number : Decimal) :
    number.toFloat.isFinite = true ↔ number.value < Binary64.overflow := by
  have length_pos : 0 < length number.digits := Nat.length_toDigits_pos
  have digits_lt := lt_ten_pow_length number.digits
  rw [toFloat, value]
  split
  case isTrue small =>
    refine iff_of_true rfl ?_
    rcases small with zero | below
    · rw [zero, Nat.cast_zero, zero_mul]
      exact Binary64.overflow_pos
    · exact Binary64.lt_overflow_of_lt_ten_pow digits_lt (by omega)
  case isFalse places =>
  have nonzero : number.digits ≠ 0 := (not_or.mp places).1
  split
  case isTrue above =>
    have digits_ge := ten_pow_length_le nonzero
    refine iff_of_false (by decide) (not_lt.mpr ?_)
    exact Binary64.overflow_le_of_ten_pow_le digits_ge (by omega)
  case isFalse =>
  split
  case isTrue nonneg =>
    rw [Binary64.isFinite_ofScientific_iff, if_neg Bool.false_ne_true, Int.toNat_of_nonneg nonneg]
  case isFalse negative =>
    rw [Binary64.isFinite_ofScientific_iff, if_pos rfl, Int.toNat_of_nonneg (by omega), neg_neg]

end Decimal

end Assay
