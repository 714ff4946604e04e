import Assay.Binary64
import Mathlib

/-!
# Packed doubles

A double is kept as sign, exponent and fraction in a word of 64 bits. What is packed is NaN only if
it was, and a number with a significand of 53 bits is unpacked as it was packed, if its exponent is
one of a double.
-/

namespace Assay.Binary64

open Float.Model (Format UnpackedFloat)
open Float.Model.UnpackedFloat

/-- The fraction of a significand of 53 bits, and the first bit that goes without saying. -/
theorem toNat_leadingBit_append {significand : Nat} (low : 2 ^ 52 ≤ significand)
    (high : significand < 2 ^ 53) :
    (1#1 ++ BitVec.ofNat 52 significand).toNat = significand := by
  rw [BitVec.toNat_append, ← Nat.shiftLeft_add_eq_or_of_lt (BitVec.isLt _),
    BitVec.toNat_ofNat significand, Nat.shiftLeft_eq]
  change 1 * 2 ^ 52 + significand % 2 ^ 52 = significand
  omega

theorem log2_of_bounds {number bits : Nat} (low : 2 ^ bits ≤ number)
    (high : number < 2 ^ (bits + 1)) : number.log2 = bits := by
  have positive : 0 < number := Nat.lt_of_lt_of_le (Nat.two_pow_pos bits) low
  exact (Nat.log2_eq_iff (Nat.ne_of_gt positive)).mpr ⟨low, high⟩

/-- The bits of an exponent that is neither all ones nor all zeros. -/
theorem ofNat_exponent (biased : Nat) (positive : 0 < biased) (bound : biased < 2047) :
    (BitVec.ofNat 11 biased).toNat = biased ∧ BitVec.ofNat 11 biased ≠ -1#11 ∧
      BitVec.ofNat 11 biased ≠ 0#11 := by
  have value_eq : (BitVec.ofNat 11 biased).toNat = biased := by
    rw [BitVec.toNat_ofNat]
    omega
  refine ⟨value_eq, fun ones => ?_, fun zeros => ?_⟩
  · have value_ones : (BitVec.ofNat 11 biased).toNat = 2047 := congrArg BitVec.toNat ones
    omega
  · have value_zero : (BitVec.ofNat 11 biased).toNat = 0 := congrArg BitVec.toNat zeros
    omega

/-- A number with a full significand is unpacked as it was packed. -/
theorem unpack_pack_finite {sign : Sign} {significand : Nat} {exponent : Int}
    (positive : 0 < significand) (low : 2 ^ 52 ≤ significand) (high : significand < 2 ^ 53)
    (least : -1074 ≤ exponent) (greatest : exponent ≤ 971) :
    (Float.Model.pack (.finite sign significand exponent positive)).unpack =
      .finite sign significand exponent positive := by
  have log_eq : significand.log2 = 52 := log2_of_bounds low high
  have biased_eq : (exponent + Format.binary64.exponentBias +
      Format.binary64.mantissaBitsWithoutImplicit).toNat = (exponent + 1075).toNat := by
    change (exponent + 1023 + 52).toNat = _
    omega
  obtain ⟨value_eq, not_ones, not_zeros⟩ :=
    ofNat_exponent (exponent + 1075).toNat (by omega) (by omega)
  change unpack Format.binary64 (UnpackedFloat.pack Format.binary64 _) = _
  rw [UnpackedFloat.pack]
  simp only [log_eq, biased_eq]
  rw [if_neg (by omega), if_pos (show 52 + 1 = Format.binary64.mantissaBits from rfl), unpack]
  simp only [unpackMantissa_packComponents, unpackExponent_packComponents,
    unpackSign_packComponents, Sign.ofBitVec_toBitVec, toNat_leadingBit_append low high, value_eq]
  rw [if_neg not_ones, if_neg not_zeros]
  congr 1
  change ((exponent + 1075).toNat : Int) - (1023 + 52) = exponent
  omega

/-! ## Full significands -/

/-- A significand of 53 bits and the exponent of a double. -/
structure Full (significand : Nat) (exponent : Int) : Prop where
  /-- The significand has no less than 53 bits. -/
  low : 2 ^ 52 ≤ significand
  /-- It has no more. -/
  high : significand < 2 ^ 53
  /-- The last place is not below the least one. -/
  least : -1074 ≤ exponent
  /-- It is not above the greatest one. -/
  greatest : exponent ≤ 971

/-- The sign that is a minus or none. -/
def signOf (negative : Bool) : Sign := if negative then .negative else .positive

section Packed

variable {significand : Nat} {exponent : Int}

theorem Full.positive (full : Full significand exponent) : 0 < significand :=
  Nat.lt_of_lt_of_le (Nat.two_pow_pos 52) full.low

/-- The double of a number with a full significand. -/
def packed (negative : Bool) (full : Full significand exponent) : Float :=
  .ofModel (Float.Model.pack (.finite (signOf negative) significand exponent full.positive))

variable (negative : Bool) (full : Full significand exponent)

theorem unpack_packed : (packed negative full).toModel.unpack =
    .finite (signOf negative) significand exponent full.positive :=
  unpack_pack_finite full.positive full.low full.high full.least full.greatest

end Packed

/-! ## NaN -/

theorem isNaN_of_isFinite_unpacked {number : UnpackedFloat} (finite : number.isFinite = true) :
    number.isNaN = false := by
  cases number with
  | infinity _ | notANumber => cases finite
  | zero _ | finite _ _ _ _ => rfl

theorem isInf_of_isFinite_unpacked {number : UnpackedFloat} (finite : number.isFinite = true) :
    number.isInf = false := by
  cases number with
  | infinity _ | notANumber => cases finite
  | zero _ | finite _ _ _ _ => rfl

section

variable {number : Float} (finite : number.isFinite = true)

include finite

theorem isNaN_of_isFinite : number.isNaN = false := isNaN_of_isFinite_unpacked finite

theorem isInf_of_isFinite : number.isInf = false := isInf_of_isFinite_unpacked finite

end

/-- What has an exponent that is not all ones is finite. -/
theorem isFinite_unpack_packComponents {sign : Sign} {exponent : BitVec 11} {fraction : BitVec 52}
    (not_ones : exponent ≠ -1#11) :
    (unpack Format.binary64 (packComponents Format.binary64 sign exponent fraction)).isFinite =
      true := by
  rw [unpack]
  simp only [unpackMantissa_packComponents, unpackExponent_packComponents]
  rw [if_neg not_ones]
  split
  · split <;> rfl
  · rfl

theorem isFinite_unpack_pack_zero (sign : Sign) :
    (Float.Model.pack (.zero sign)).unpack.isFinite = true := by
  cases sign <;> rfl

section Finite

variable {sign : Sign} {significand : Nat} {exponent : Int} (positive : 0 < significand)

/-- A number above the greatest exponent of a double becomes infinite. -/
theorem unpack_pack_of_lt (above : 971 < exponent) :
    (Float.Model.pack (.finite sign significand exponent positive)).unpack = .infinity sign := by
  have full : 2 ^ Format.binary64.exponentBits ≤ (exponent + Format.binary64.exponentBias +
      Format.binary64.mantissaBitsWithoutImplicit).toNat + 1 := by
    change 2 ^ 11 ≤ (exponent + 1023 + 52).toNat + 1
    omega
  change unpack Format.binary64 (UnpackedFloat.pack Format.binary64 _) = _
  rw [UnpackedFloat.pack]
  dsimp only
  rw [if_pos full]
  cases sign <;> rfl

theorem isFinite_unpack_pack (below : exponent ≤ 971) :
    (Float.Model.pack (.finite sign significand exponent positive)).unpack.isFinite = true := by
  have room : (exponent + Format.binary64.exponentBias +
      Format.binary64.mantissaBitsWithoutImplicit).toNat + 1 <
        2 ^ Format.binary64.exponentBits := by
    change (exponent + 1023 + 52).toNat + 1 < 2 ^ 11
    omega
  change (unpack Format.binary64 (UnpackedFloat.pack Format.binary64 _)).isFinite = true
  rw [UnpackedFloat.pack]
  dsimp only
  rw [if_neg (Nat.not_le_of_lt room)]
  generalize (exponent + _ + _).toNat = biased at room ⊢
  split
  · refine isFinite_unpack_packComponents fun ones => ?_
    have value_eq := congrArg BitVec.toNat ones
    rw [BitVec.toNat_ofNat] at value_eq
    change biased % 2 ^ 11 = 2047 at value_eq
    change biased + 1 < 2 ^ 11 at room
    omega
  · exact isFinite_unpack_packComponents (by decide)

/-- A number is finite up to the greatest exponent of a double. -/
theorem isFinite_unpack_pack_iff :
    (Float.Model.pack (.finite sign significand exponent positive)).unpack.isFinite = true ↔
      exponent ≤ 971 := by
  refine ⟨fun finite => Int.not_lt.mp fun above => ?_, isFinite_unpack_pack positive⟩
  rw [unpack_pack_of_lt positive above] at finite
  cases finite

/-- Doubles have no greater exponents. -/
theorem exponent_le_of_unpack {model : Float.Model}
    (unpacked : model.unpack = .finite sign significand exponent positive) : exponent ≤ 971 := by
  change unpack Format.binary64 _ = _ at unpacked
  rw [unpack] at unpacked
  dsimp only at unpacked
  split at unpacked
  · split at unpacked <;> cases unpacked
  · rename_i not_ones
    generalize unpackExponent _ = bits at unpacked not_ones
    have bound : bits.toNat < 2048 := bits.isLt
    have below : bits.toNat ≠ 2047 := fun ones => not_ones (BitVec.eq_of_toNat_eq ones)
    have bias_eq : (Format.binary64.exponentBias : Int) = 1023 := rfl
    split at unpacked
    case isTrue zeros =>
      have zero_eq : bits.toNat = 0 := congrArg BitVec.toNat zeros
      split at unpacked <;> cases unpacked
      omega
    case isFalse =>
      cases unpacked
      omega

end Finite

/-- Only NaN is packed as NaN. -/
theorem isNaN_unpack_pack (number : UnpackedFloat) :
    (Float.Model.pack number).unpack.isNaN = number.isNaN := by
  cases number with
  | notANumber => rfl
  | infinity sign => cases sign <;> rfl
  | zero sign => cases sign <;> rfl
  | finite sign significand exponent positive =>
      rcases Int.lt_or_le 971 exponent with above | below
      · rw [unpack_pack_of_lt positive above]
        rfl
      · exact isNaN_of_isFinite_unpacked (isFinite_unpack_pack positive below)

/-- What is rounded is a number. -/
theorem isNaN_roundWithAccuracy (spec : Format) (sign : Sign) (significand : Nat) (exponent : Int)
    (accuracy : Accuracy) :
    (roundWithAccuracy spec sign significand exponent accuracy).isNaN = false := by
  rw [roundWithAccuracy]
  dsimp only
  split <;> rfl

theorem isNaN_normalize (spec : Format) (number exponent : Int) (zeroSign : Sign) :
    (UnpackedFloat.normalize spec number exponent zeroSign).isNaN = false := by
  rw [UnpackedFloat.normalize]
  split
  · exact isNaN_roundWithAccuracy ..
  · rfl
  · exact isNaN_roundWithAccuracy ..

end Assay.Binary64
