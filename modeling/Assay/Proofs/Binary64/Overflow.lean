import Assay.Proofs.Binary64.Word

/-!
# Overflow

A quotient of whole numbers, scaled by a power of two, is rounded to an infinite double exactly if
it is at least half a unit above the greatest finite one. The rounding shifts the quotient to 53
bits. Where this needs the greatest exponent, the quotient overflows if its nearest number has 54
bits; below that it never does, and above it always does.
-/

namespace Assay.Binary64

open Float.Model (Format UnpackedFloat)
open Float.Model.UnpackedFloat

/-- The least number that is rounded to an infinite double, half a unit above the greatest finite
one. -/
def overflow : ℚ := 2 ^ 1024 - 2 ^ 970

theorem two_pow_le_overflow : 2 ^ 1023 ≤ overflow := by
  have unit_le : (2 : ℚ) ^ 970 ≤ 2 ^ 1023 := pow_le_pow_right₀ one_le_two (by decide)
  rw [overflow, pow_succ' 2 1023, two_mul, le_sub_iff_add_le]
  exact add_le_add le_rfl unit_le

theorem overflow_le_ten_pow : overflow ≤ 10 ^ 400 := by
  have unit_pos : (0 : ℚ) < 2 ^ 970 := pow_pos two_pos 970
  calc
    overflow ≤ 2 ^ 1024 := sub_le_self _ unit_pos.le
    _ ≤ 2 ^ (3 * 400) := pow_le_pow_right₀ one_le_two (by decide)
    _ = (2 ^ 3) ^ 400 := pow_mul 2 3 400
    _ ≤ 10 ^ 400 := pow_le_pow_left₀ (by norm_num) (by norm_num) 400

section

variable {numerator denominator : Nat} {exponent : Int}

/-- A scaled quotient does not overflow if the number of greatest units nearest to it has no more
than 53 bits. -/
theorem lt_overflow_iff (positive : 0 < denominator) {places : Nat}
    (places_eq : exponent + places = 971) :
    (numerator / denominator * 2 ^ exponent : ℚ) < overflow ↔
      nearest numerator (denominator * 2 ^ places) < 2 ^ 53 := by
  have scaled_pos : 0 < denominator * 2 ^ places := Nat.mul_pos positive (Nat.two_pow_pos places)
  have unit_pos : (0 : ℚ) < 2 ^ 970 := pow_pos two_pos 970
  have scale_eq : (2 : ℚ) ^ exponent = 2 * 2 ^ 970 / 2 ^ places := by
    rw [show exponent = ((971 : Nat) : Int) - places by omega, zpow_sub₀ two_ne_zero,
      zpow_natCast, zpow_natCast, ← pow_succ']
  have overflow_eq : overflow = (2 * 2 ^ 53 - 1) * 2 ^ 970 := by
    rw [overflow, sub_one_mul, ← pow_succ', ← pow_add]
  have factor_eq : ((2 * 2 ^ 53 - 1 : Nat) : ℚ) = 2 * 2 ^ 53 - 1 := by norm_num
  have value_eq : (numerator / denominator * 2 ^ exponent : ℚ) =
      2 * numerator / (denominator * 2 ^ places : Nat) * 2 ^ 970 := by
    rw [scale_eq, Nat.cast_mul, Nat.cast_pow, Nat.cast_ofNat]
    generalize (2 : ℚ) ^ 970 = unit
    ring
  rw [← Nat.not_le, le_nearest_iff numerator scaled_pos (by decide) (by decide), Nat.not_le,
    value_eq, overflow_eq, mul_lt_mul_iff_left₀ unit_pos,
    div_lt_iff₀ (Nat.cast_pos.mpr scaled_pos)]
  rw [← factor_eq, ← Nat.cast_ofNat, ← Nat.cast_mul, ← Nat.cast_mul, Nat.cast_lt]

/-! ## The shift to 53 bits -/

/-- The places that a number is shifted by to no more than 53 bits, and above the least exponent. -/
def shift (number : Nat) (exponent : Int) : Nat :=
  (max (number.log2 + 1 + exponent - 53) (-1074) - exponent).toNat

theorem shiftToTargetExponent_quotient (numerator : Nat) (positive : 0 < denominator)
    (exponent : Int) :
    shiftToTargetExponent Format.binary64 (numerator / denominator) exponent
        (accuracyOfFraction (numerator % denominator) denominator) =
      (quotient numerator (denominator * 2 ^ shift (numerator / denominator) exponent),
        exponent + shift (numerator / denominator) exponent) := by
  rw [shiftToTargetExponent, targetExponent_binary64, shiftToExponent,
    ofMantissaAndAccuracy_quotient numerator positive, ← shiftRight_quotient numerator positive]
  rfl

theorem div_shift_lt (number : Nat) (exponent : Int) :
    number / 2 ^ shift number exponent < 2 ^ 53 := by
  have long : number < 2 ^ (number.log2 + 1) := Nat.lt_log2_self
  have places_le : number.log2 + 1 ≤ shift number exponent + 53 := by
    rw [shift]
    omega
  refine Nat.div_lt_of_lt_mul (Nat.lt_of_lt_of_le long ?_)
  rw [← Nat.pow_add]
  exact Nat.pow_le_pow_right Nat.two_pos places_le

/-- A number that is shifted to another exponent than the least keeps 53 bits. -/
theorem le_div_shift {number : Nat} (shifted : 0 < shift number exponent)
    (above : -1074 < exponent + shift number exponent) :
    2 ^ 52 ≤ number / 2 ^ shift number exponent := by
  have places_eq : number.log2 = 52 + shift number exponent := by
    rw [shift] at shifted above ⊢
    omega
  have nonzero : number ≠ 0 := by
    rintro rfl
    rw [Nat.log2_zero] at places_eq
    omega
  rw [Nat.le_div_iff_mul_le (Nat.two_pow_pos _), ← Nat.pow_add, ← places_eq]
  exact Nat.log2_self_le nonzero

/-- A rounded number is shifted once more if it has 54 bits. -/
theorem shift_rounded {number : Nat} (bound : number ≤ 2 ^ 53) (above : -1074 ≤ exponent) :
    shift number exponent = if number < 2 ^ 53 then 0 else 1 := by
  split
  case isTrue below =>
    have log_lt : number.log2 < 53 := by
      rcases Nat.eq_zero_or_pos number with rfl | positive
      · decide
      · exact (Nat.log2_lt (Nat.ne_of_gt positive)).mpr below
    rw [shift]
    omega
  case isFalse full =>
    obtain rfl : number = 2 ^ 53 := Nat.le_antisymm bound (Nat.not_lt.mp full)
    rw [shift, Nat.log2_two_pow]
    omega

/-- Another place halves a quotient at least. -/
theorem two_mul_div_le (numerator denominator : Nat) {places places' : Nat}
    (less : places < places') :
    2 * (numerator / (denominator * 2 ^ places')) ≤ numerator / (denominator * 2 ^ places) := by
  obtain ⟨further, rfl⟩ := Nat.exists_eq_add_of_lt less
  rw [show places + further + 1 = places + (1 + further) by omega, Nat.pow_add, Nat.pow_add,
    ← Nat.mul_assoc, ← Nat.mul_assoc, Nat.pow_one, ← Nat.div_div_eq_div_mul,
    ← Nat.div_div_eq_div_mul]
  have halved_le := Nat.div_le_self (numerator / (denominator * 2 ^ places) / 2) (2 ^ further)
  omega

/-! ## Rounding -/

/-- A number of no more than 53 bits, or half of the least one of 54. -/
def halved (sign : Sign) (number : Nat) (exponent : Int) : UnpackedFloat :=
  if zero : number = 0 then .zero sign
  else if number < 2 ^ 53 then .finite sign number exponent (Nat.pos_of_ne_zero zero)
  else .finite sign (2 ^ 52) (exponent + 1) (Nat.two_pow_pos 52)

theorem isFinite_halved_iff (sign : Sign) (number : Nat) (exponent : Int) :
    (Float.Model.pack (halved sign number exponent)).unpack.isFinite = true ↔
      number = 0 ∨ number < 2 ^ 53 ∧ exponent ≤ 971 ∨ exponent ≤ 970 := by
  rw [halved]
  split
  case isTrue zero => exact iff_of_true (isFinite_unpack_pack_zero sign) (.inl zero)
  case isFalse nonzero =>
    split <;> rw [isFinite_unpack_pack_iff] <;> omega

/-- A quotient is rounded to the nearest number of its last places. -/
theorem roundWithAccuracy_quotient (sign : Sign) (numerator : Nat) (positive : 0 < denominator)
    {places : Nat} (places_eq : shift (numerator / denominator) exponent = places) :
    roundWithAccuracy Format.binary64 sign (numerator / denominator) exponent
        (accuracyOfFraction (numerator % denominator) denominator) =
      halved sign (nearest numerator (denominator * 2 ^ places)) (exponent + places) := by
  have kept_lt : numerator / (denominator * 2 ^ places) < 2 ^ 53 := by
    rw [← Nat.div_div_eq_div_mul, ← places_eq]
    exact div_shift_lt _ _
  have bound : nearest numerator (denominator * 2 ^ places) ≤ 2 ^ 53 :=
    Nat.le_trans (nearest_le _ _) kept_lt
  have above : -1074 ≤ exponent + places := by
    rw [← places_eq, shift]
    omega
  have scaled_pos : 0 < denominator * 2 ^ places := Nat.mul_pos positive (Nat.two_pow_pos places)
  have second_shift := shiftToTargetExponent_exact (nearest numerator (denominator * 2 ^ places))
    (exponent + places) _ rfl
  rw [← shift, shift_rounded bound above] at second_shift
  rw [roundWithAccuracy, shiftToTargetExponent_quotient numerator positive, places_eq, halved]
  simp only [roundedMantissa_quotient numerator scaled_pos, second_shift]
  rcases Nat.eq_or_lt_of_le bound with full | room
  · have kept_eq : (cut (nearest numerator (denominator * 2 ^ places)) 1).mantissa = 2 ^ 52 := by
      rw [full]
      rfl
    have nonzero : nearest numerator (denominator * 2 ^ places) ≠ 0 := by omega
    simp only [if_neg (Nat.not_lt_of_ge (Nat.le_of_eq full.symm)), kept_eq, dif_neg nonzero]
    rfl
  · simp only [if_pos room, cut_zero, Int.natCast_zero, Int.add_zero]

theorem isFinite_round_iff (sign : Sign) (positive : 0 < denominator) (below : exponent ≤ 971) :
    (Float.Model.pack (roundWithAccuracy Format.binary64 sign (numerator / denominator) exponent
        (accuracyOfFraction (numerator % denominator) denominator))).unpack.isFinite = true ↔
      (numerator / denominator * 2 ^ exponent : ℚ) < overflow := by
  obtain ⟨places, places_eq⟩ : ∃ places : Nat, exponent + places = 971 :=
    ⟨(971 - exponent).toNat, by omega⟩
  obtain ⟨shifted, shifted_eq⟩ : ∃ places, shift (numerator / denominator) exponent = places :=
    ⟨_, rfl⟩
  rw [lt_overflow_iff positive places_eq, roundWithAccuracy_quotient sign numerator positive
    shifted_eq, isFinite_halved_iff]
  have low := le_nearest numerator (denominator * 2 ^ places)
  have high := nearest_le numerator (denominator * 2 ^ places)
  rcases Nat.lt_trichotomy shifted places with less | rfl | more
  · -- The shift comes to a lesser exponent, and nothing overflows.
    have kept_lt : numerator / (denominator * 2 ^ shifted) < 2 ^ 53 := by
      rw [← Nat.div_div_eq_div_mul, ← shifted_eq]
      exact div_shift_lt _ _
    have halved_le := two_mul_div_le numerator denominator less
    omega
  · omega
  · -- The shift comes to a greater exponent, and everything overflows.
    have kept_ge : 2 ^ 52 ≤ numerator / (denominator * 2 ^ shifted) := by
      rw [← Nat.div_div_eq_div_mul, ← shifted_eq]
      exact le_div_shift (by omega) (by omega)
    have halved_le := two_mul_div_le numerator denominator more
    have rounded_ge := le_nearest numerator (denominator * 2 ^ shifted)
    omega

/-! ## Products and quotients -/

section

variable {sign sign' : Sign} {significand significand' : Nat} {exponent' : Int}
  {positive : 0 < significand} {positive' : 0 < significand'}

theorem isFinite_mul_iff (below : exponent + exponent' ≤ 971) :
    (Float.Model.pack (mul Format.binary64 (.finite sign significand exponent positive)
        (.finite sign' significand' exponent' positive'))).unpack.isFinite = true ↔
      (significand * significand' * 2 ^ (exponent + exponent') : ℚ) < overflow := by
  have rounded := @isFinite_round_iff (significand * significand') 1 _ (sign * sign')
    Nat.one_pos below
  simp only [Nat.div_one, Nat.mod_one, Nat.cast_mul, Nat.cast_one, div_one] at rounded
  exact rounded

theorem isFinite_div_iff (below : exponent - exponent' ≤ 971) :
    (Float.Model.pack (div Format.binary64 (.finite sign significand exponent positive)
        (.finite sign' significand' exponent' positive'))).unpack.isFinite = true ↔
      (significand / significand' * 2 ^ (exponent - exponent') : ℚ) < overflow := by
  rw [div, divCore]
  generalize target_eq : min (exponent - exponent') _ = target
  dsimp only
  obtain ⟨places, places_eq⟩ : ∃ places : Nat, exponent - exponent' = target + places :=
    ⟨(exponent - exponent' - target).toNat, by omega⟩
  have shift_eq : (exponent - exponent' - target).toNat = places := by omega
  have value_eq : (significand / significand' * 2 ^ (exponent - exponent') : ℚ) =
      (significand * 2 ^ places : Nat) / significand' * 2 ^ target := by
    rw [places_eq, zpow_add₀ two_ne_zero, zpow_natCast, Nat.cast_mul, Nat.cast_pow, Nat.cast_ofNat]
    ring
  rw [shift_eq, Nat.shiftLeft_eq, value_eq]
  exact isFinite_round_iff (sign / sign') positive' (by omega)

end

end

end Assay.Binary64
