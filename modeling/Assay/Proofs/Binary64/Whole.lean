import Assay.Proofs.Binary64.Word

/-!
# Whole doubles

The parts of a double with a full significand are the ones that it was packed from. Such a double
is left as it is when it is rounded to a whole number and is whole already. The double of a word is
one of these; the whole number that it is lies within half a unit of the word, and at exactly half a
unit it is an even multiple of the unit.
-/

namespace Assay.Binary64

open Float.Model (Format UnpackedFloat)
open Float.Model.UnpackedFloat

/-! ## The parts of a packed number -/

section Packed

variable {significand : Nat} {exponent : Int} (negative : Bool) (full : Full significand exponent)

theorem isFinite_packed : (packed negative full).isFinite = true := by
  rw [Float.isFinite, Float.Model.isFinite, unpack_packed]
  rfl

theorem neg_packed : -packed false full = packed true full := by
  change Float.ofModel (Float.Model.pack (packed false full).toModel.unpack.neg) = _
  rw [unpack_packed]
  rfl

/-- Sign, biased exponent and fraction of a packed number stand one after the other. -/
theorem toNat_toBits_packed : (packed negative full).toBits.toNat =
    (if negative then 2 ^ 63 else 0) + (exponent + 1075).toNat * 2 ^ 52 +
      (significand - 2 ^ 52) := by
  obtain ⟨low, high, least, greatest⟩ := full
  have log_eq : significand.log2 = 52 := log2_of_bounds low high
  have biased_eq : (exponent + Format.binary64.exponentBias +
      Format.binary64.mantissaBitsWithoutImplicit).toNat = (exponent + 1075).toNat := by
    change (exponent + 1023 + 52).toNat = _
    omega
  obtain ⟨value_eq, -, -⟩ := ofNat_exponent (exponent + 1075).toNat (by omega) (by omega)
  have sign_eq : (signOf negative).toBitVec.toNat = if negative then 1 else 0 := by
    cases negative <;> rfl
  change (UnpackedFloat.pack Format.binary64
    (.finite (signOf negative) significand exponent (by omega))).toNat = _
  rw [UnpackedFloat.pack]
  simp only [log_eq, biased_eq]
  rw [if_neg (by omega), if_pos (show 52 + 1 = Format.binary64.mantissaBits from rfl),
    packComponents, BitVec.toNat_append, ← Nat.shiftLeft_add_eq_or_of_lt (BitVec.isLt _),
    BitVec.toNat_append, ← Nat.shiftLeft_add_eq_or_of_lt (BitVec.isLt _), value_eq, sign_eq,
    BitVec.toNat_ofNat significand, Nat.shiftLeft_eq, Nat.shiftLeft_eq]
  split <;> omega

/-- A packed number has the parts that it was packed from. -/
theorem parts_packed : parts (packed negative full) = ⟨negative, significand, exponent⟩ := by
  have bits_eq := toNat_toBits_packed negative full
  obtain ⟨low, high, least, greatest⟩ := full
  rw [parts]
  generalize (packed negative _).toBits.toNat = bits at bits_eq ⊢
  have fraction_eq : bits % Nat.pow 2 52 = significand - 2 ^ 52 := by
    rw [bits_eq, Nat.pow_eq]
    split <;> omega
  have biased_eq : bits / Nat.pow 2 52 % Nat.pow 2 11 = (exponent + 1075).toNat := by
    rw [bits_eq, Nat.pow_eq, Nat.pow_eq]
    split <;> omega
  have sign_eq : decide (Nat.pow 2 63 ≤ bits) = negative := by
    rw [bits_eq, Nat.pow_eq]
    cases negative with
    | true => exact decide_eq_true (by rw [if_pos rfl]; omega)
    | false => exact decide_eq_false (by rw [if_neg nofun]; omega)
  rw [fraction_eq, biased_eq, sign_eq, if_neg (by omega), Nat.pow_eq, Nat.add_sub_of_le low]
  congr 1
  omega

/-- The bits of a positive number are its exponent and its significand, added up. -/
theorem ofBits_eq_packed {bits : Nat}
    (bits_eq : bits = (exponent + 1074).toNat * 2 ^ 52 + significand) :
    Float.ofBits (UInt64.ofNat bits) = packed false full := by
  have packed_eq := toNat_toBits_packed false full
  have low := full.low
  have least := full.least
  rw [if_neg nofun] at packed_eq
  have same : bits = (packed false full).toBits.toNat := by omega
  rw [same, UInt64.ofNat_toNat, Float.ofBits_toBits]

end Packed

/-! ## Whole numbers -/

/-- A significand in units of its last place is a whole number. -/
def Denotes (significand : Nat) (exponent : Int) (whole : Nat) : Prop :=
  significand * 2 ^ exponent.toNat = whole * 2 ^ (-exponent).toNat

theorem log2_mul_two_pow {number : Nat} (positive : 0 < number) (places : Nat) :
    (number * 2 ^ places).log2 = number.log2 + places := by
  have unit_pos : 0 < 2 ^ places := Nat.two_pow_pos places
  refine log2_of_bounds ?_ ?_
  · rw [Nat.pow_add]
    exact Nat.mul_le_mul_right _ (Nat.log2_self_le (Nat.ne_of_gt positive))
  · rw [Nat.add_right_comm, Nat.pow_add]
    exact Nat.mul_lt_mul_of_pos_right Nat.lt_log2_self unit_pos

namespace Denotes

variable {significand whole : Nat} {exponent : Int}

theorem eq_of_nonneg (denotes : Denotes significand exponent whole) (nonneg : 0 ≤ exponent) :
    whole = significand * 2 ^ exponent.toNat := by
  rw [Denotes, show (-exponent).toNat = 0 by omega, Nat.pow_zero, Nat.mul_one] at denotes
  exact denotes.symm

theorem eq_of_nonpos (denotes : Denotes significand exponent whole) (nonpos : exponent ≤ 0) :
    significand = whole * 2 ^ (-exponent).toNat := by
  rw [Denotes, show exponent.toNat = 0 by omega, Nat.pow_zero, Nat.mul_one] at denotes
  exact denotes

/-- Nothing is left over of a whole number. -/
theorem split_eq (denotes : Denotes significand exponent whole) (negative : Bool) :
    (⟨negative, significand, exponent⟩ : Parts).split = (whole, 0, 2 ^ (-exponent).toNat) := by
  rw [Parts.split]
  simp only [Nat.pow_eq]
  rcases lt_or_ge exponent 0 with below | nonneg
  · rw [if_neg (Int.not_le.mpr below), denotes.eq_of_nonpos (Int.le_of_lt below),
      Nat.mul_div_cancel _ (Nat.two_pow_pos _), Nat.mul_mod_left]
  · rw [if_pos nonneg, denotes.eq_of_nonneg nonneg, show (-exponent).toNat = 0 by omega,
      Nat.pow_zero]

theorem log2_eq (denotes : Denotes significand exponent whole)
    (full : Full significand exponent) : 0 < whole ∧ (whole.log2 : Int) = 52 + exponent := by
  have positive : 0 < whole := by
    refine Nat.pos_of_ne_zero fun zero => ?_
    rw [Denotes, zero, Nat.zero_mul] at denotes
    exact Nat.mul_ne_zero (Nat.ne_of_gt full.positive) (Nat.ne_of_gt (Nat.two_pow_pos _)) denotes
  have logs := congrArg Nat.log2 denotes
  rw [log2_mul_two_pow full.positive, log2_mul_two_pow positive,
    log2_of_bounds full.low full.high] at logs
  omega

variable (full : Full significand exponent)

/-- A whole number with a full significand has a double of its own. -/
theorem ofParts_eq (denotes : Denotes significand exponent whole) (negative : Bool) :
    ofParts ⟨negative, whole, 0⟩ = packed negative full := by
  obtain ⟨positive, log_eq⟩ := denotes.log2_eq full
  have least := full.least
  have last_eq : max ((whole.log2 : Int) + 0 - 52) (-1074) = exponent := by omega
  have significand_eq : (if exponent ≤ 0 then whole * 2 ^ (0 - exponent).toNat
      else whole / 2 ^ (exponent - 0).toNat) = significand := by
    rw [Int.zero_sub, Int.sub_zero]
    split
    case isTrue nonpos => exact (denotes.eq_of_nonpos nonpos).symm
    case isFalse above =>
      rw [denotes.eq_of_nonneg (by omega), Nat.mul_div_cancel _ (Nat.two_pow_pos _)]
  rw [ofParts]
  simp only [Nat.pow_eq, last_eq, significand_eq, if_neg (Nat.ne_of_gt positive)]
  rw [ofBits_eq_packed full rfl]
  cases negative with
  | true => exact neg_packed full
  | false => rfl

/-- Rounding leaves a whole double as it is. -/
theorem roundBy_eq (denotes : Denotes significand exponent whole) (negative : Bool)
    {away : Bool → Nat → Nat → Nat → Bool}
    (stays : away negative whole 0 (2 ^ (-exponent).toNat) = false) :
    roundBy away (packed negative full) = packed negative full := by
  rw [roundBy, isFinite_packed, parts_packed, Bool.not_true, if_neg nofun]
  simp only [denotes.split_eq, stays]
  exact denotes.ofParts_eq full negative

theorem toInt_eq (denotes : Denotes significand exponent whole) (negative : Bool) :
    toInt (packed negative full) = if negative then -(whole : Int) else whole := by
  rw [toInt, parts_packed, denotes.split_eq]

end Denotes

/-! ## The whole number nearest to a word -/

/-- The whole number nearest to a given one among those of 53 bits and any number of zeros. -/
def nearestWhole (number : Nat) : Nat :=
  roundOff number (number.log2 - 52) * 2 ^ (number.log2 - 52)

/-- The place of a number is that of the whole number nearest to it. -/
theorem denotes_of_place {number significand : Nat} {exponent : Int} (positive : 0 < number)
    (place_eq : toLex (exponent, (significand : Int)) = place number) :
    Denotes significand exponent (nearestWhole number) := by
  rw [Denotes, nearestWhole]
  -- A short number is filled up with zeros. A long one loses its last places, and rounding them up
  -- can carry into one more place.
  rcases lt_or_ge number.log2 52 with short | long
  · have bound : number < 2 ^ 53 :=
      Nat.lt_of_lt_of_le Nat.lt_log2_self (Nat.pow_le_pow_right (by decide) (by omega))
    obtain ⟨leading_eq, room⟩ := leading_of_lt positive bound
    rw [place, if_neg (Nat.ne_of_lt room), toLex_inj, Prod.mk.injEq, leading_eq,
      Nat.cast_inj] at place_eq
    obtain ⟨rfl, rfl⟩ := place_eq
    rw [show number.log2 - 52 = 0 by omega, roundOff_zero,
      show ((number.log2 : Int) - 52).toNat = 0 by omega,
      show (-((number.log2 : Int) - 52)).toNat = 52 - number.log2 by omega, Nat.pow_zero,
      Nat.mul_one, Nat.mul_one]
  · have leading_eq : leading number = roundOff number (number.log2 - 52) := by
      rw [leading, show 52 - number.log2 = 0 by omega, Nat.pow_zero, Nat.mul_one]
    rw [place] at place_eq
    rw [← leading_eq]
    split at place_eq
    case isTrue full =>
      rw [toLex_inj, Prod.mk.injEq, Nat.cast_inj] at place_eq
      obtain ⟨rfl, rfl⟩ := place_eq
      rw [full, show ((number.log2 : Int) - 51).toNat = number.log2 - 52 + 1 by omega,
        show (-((number.log2 : Int) - 51)).toNat = 0 by omega, Nat.pow_zero, Nat.mul_one]
      ring
    case isFalse room =>
      rw [toLex_inj, Prod.mk.injEq, Nat.cast_inj] at place_eq
      obtain ⟨rfl, rfl⟩ := place_eq
      rw [show ((number.log2 : Int) - 52).toNat = number.log2 - 52 by omega,
        show (-((number.log2 : Int) - 52)).toNat = 0 by omega, Nat.pow_zero, Nat.mul_one]

/-- A word other than zero is a whole double with a full significand. -/
theorem eq_zero_or_ofWord_eq (number : Int64) : number = 0 ∨ number.toInt ≠ 0 ∧
    ∃ significand exponent, ∃ full : Full significand exponent,
      Denotes significand exponent (nearestWhole number.toInt.natAbs) ∧
        ofWord number = packed (decide (number.toInt < 0)) full := by
  by_cases zero : number.toInt = 0
  · exact .inl (Int64.toInt_inj.mp zero)
  · obtain ⟨significand, exponent, full, place_eq, word_eq⟩ := exists_ofWord_eq zero
    exact .inr ⟨zero, significand, exponent, full, denotes_of_place (by omega) place_eq, word_eq⟩

theorem isFinite_ofWord (number : Int64) : (ofWord number).isFinite = true := by
  obtain rfl | ⟨-, _, _, full, -, word_eq⟩ := eq_zero_or_ofWord_eq number
  · decide +kernel
  · rw [word_eq, isFinite_packed]

/-- The double of a word is the one of the whole number nearest to it. -/
theorem ofWord_eq_ofParts (number : Int64) : ofWord number =
    ofParts ⟨decide (number.toInt < 0), nearestWhole number.toInt.natAbs, 0⟩ := by
  obtain rfl | ⟨-, _, _, full, denotes, word_eq⟩ := eq_zero_or_ofWord_eq number
  · exact Float.toBits_inj.mp (by decide +kernel)
  · rw [word_eq, denotes.ofParts_eq full]

/-- The double of a word is whole. -/
theorem roundEven_ofWord (number : Int64) : roundEven (ofWord number) = ofWord number := by
  obtain rfl | ⟨-, _, exponent, full, denotes, word_eq⟩ := eq_zero_or_ofWord_eq number
  · exact Float.toBits_inj.mp (by decide +kernel)
  · have unit_ne : 0 ≠ 2 ^ (-exponent).toNat := Nat.ne_of_lt (Nat.two_pow_pos _)
    rw [word_eq, roundEven]
    exact denotes.roundBy_eq full _ (by simp [unit_ne])

theorem toInt_ofWord (number : Int64) :
    toInt (ofWord number) = number.toInt.sign * nearestWhole number.toInt.natAbs := by
  obtain rfl | ⟨nonzero, _, _, full, denotes, word_eq⟩ := eq_zero_or_ofWord_eq number
  · decide +kernel
  · rw [word_eq, denotes.toInt_eq full]
    rcases Int.lt_or_gt_of_ne nonzero with negative | positive
    · rw [decide_eq_true negative, if_pos rfl, Int.sign_eq_neg_one_of_neg negative, Int.neg_one_mul]
    · rw [decide_eq_false (by omega), if_neg nofun, Int.sign_eq_one_of_pos positive, Int.one_mul]

/-! ## How near the whole number is -/

/-- A multiple of a unit is the one nearest to a number, and of two the even one. -/
structure Nearest (unit : Nat) (number nearest : Int) : Prop where
  /-- It is a multiple. -/
  multiple : (unit : Int) ∣ nearest
  /-- It is no more than half a unit away. -/
  close : 2 * (nearest - number).natAbs ≤ unit
  /-- At half a unit it is an even multiple. -/
  even : 2 * (nearest - number).natAbs = unit → (2 * unit : Int) ∣ nearest

theorem Nearest.neg {unit : Nat} {number nearest : Int} (near : Nearest unit number nearest) :
    Nearest unit (-number) (-nearest) := by
  have distance_eq : (-nearest - -number).natAbs = (nearest - number).natAbs := by omega
  refine ⟨Int.dvd_neg.mpr near.multiple, ?_, ?_⟩
  · rw [distance_eq]
    exact near.close
  · rw [distance_eq, Int.dvd_neg]
    exact near.even

/-- A number has itself as the nearest multiple exactly if it is one. -/
theorem Nearest.eq_iff {unit : Nat} {number nearest : Int} (positive : 0 < unit)
    (near : Nearest unit number nearest) : nearest = number ↔ (unit : Int) ∣ number := by
  refine ⟨fun same => same ▸ near.multiple, fun multiple => ?_⟩
  have close := near.close
  have gap := Int.eq_zero_of_dvd_of_natAbs_lt_natAbs (Int.dvd_sub near.multiple multiple)
    (by rw [Int.natAbs_natCast]; omega)
  omega

/-- Rounding the last places off yields the nearest multiple of their unit. -/
theorem nearest_roundOff (number places : Nat) :
    Nearest (2 ^ places) number (roundOff number places * 2 ^ places : Nat) := by
  have parts := Nat.div_add_mod number (2 ^ places)
  have left_lt : number % 2 ^ places < 2 ^ places := Nat.mod_lt _ (Nat.two_pow_pos places)
  have multiple : ((2 ^ places : Nat) : Int) ∣ (roundOff number places * 2 ^ places : Nat) :=
    Int.natCast_dvd_natCast.mpr (Nat.dvd_mul_left ..)
  rw [roundOff] at multiple ⊢
  generalize number / 2 ^ places = kept at parts multiple ⊢
  generalize number % 2 ^ places = left at parts left_lt multiple ⊢
  generalize 2 ^ places = unit at parts left_lt multiple ⊢
  rw [Nat.mul_comm] at parts
  rcases Nat.lt_trichotomy (2 * left) unit with below | half | above
  · rw [if_pos below] at multiple ⊢
    exact ⟨multiple, by omega, fun _ => by omega⟩
  · rw [if_neg (by omega), if_pos half] at multiple ⊢
    refine ⟨multiple, ?_, fun _ => ?_⟩
    · rw [Nat.add_mul]
      rcases Nat.mod_two_eq_zero_or_one kept with last | last <;> rw [last] <;> omega
    · have even_eq : kept + kept % 2 = 2 * ((kept + kept % 2) / 2) := by omega
      rw [even_eq]
      exact ⟨((kept + kept % 2) / 2 : Nat), by push_cast; ring⟩
  · rw [if_neg (by omega), if_neg (by omega)] at multiple ⊢
    rw [Nat.add_mul] at multiple ⊢
    exact ⟨multiple, by omega, fun _ => by omega⟩

/-- The unit in which 53 bits of a number are kept. -/
def unitOf (number : Int) : Nat := 2 ^ (number.natAbs.log2 - 52)

/-- The whole number that a word is as a double. -/
theorem nearest_toInt_ofWord (number : Int64) :
    Nearest (unitOf number.toInt) number.toInt (toInt (ofWord number)) := by
  have near : Nearest (unitOf number.toInt) number.toInt.natAbs
      (nearestWhole number.toInt.natAbs : Nat) := nearest_roundOff ..
  rw [toInt_ofWord]
  rcases Int.lt_trichotomy number.toInt 0 with negative | zero | positive
  · have negated := near.neg
    rwa [show -(number.toInt.natAbs : Int) = number.toInt by omega, ← Int.neg_one_mul,
      ← Int.sign_eq_neg_one_of_neg negative] at negated
  · rw [zero]
    exact ⟨Int.dvd_zero _, by decide, by decide⟩
  · rwa [show (number.toInt.natAbs : Int) = number.toInt by omega,
      ← Int.one_mul (nearestWhole _ : Int), ← Int.sign_eq_one_of_pos positive] at near

/-- Whole numbers up to `2 ^ 53` in magnitude are multiples of their units. -/
theorem unitOf_dvd {number : Int} (bound : number.natAbs ≤ 2 ^ 53) :
    (unitOf number : Int) ∣ number := by
  rcases Nat.eq_or_lt_of_le bound with edge | inside
  · obtain rfl | rfl : number = 2 ^ 53 ∨ number = -2 ^ 53 := by omega
    · decide
    · decide
  · have log_le : number.natAbs.log2 ≤ 52 := by
      by_cases zero : number.natAbs = 0
      · rw [zero]
        decide
      · exact Nat.le_of_lt_succ ((Nat.log2_lt zero).mpr inside)
    rw [unitOf, Nat.sub_eq_zero_of_le log_le]
    exact one_dvd _

/-- All words but the 512 greatest are words as doubles. -/
theorem toInt_ofWord_bounds {number : Int64} (inside : number.toInt < 2 ^ 63 - 512) :
    -2 ^ 63 ≤ toInt (ofWord number) ∧ toInt (ofWord number) < 2 ^ 63 := by
  obtain ⟨multiple, close, even⟩ := nearest_toInt_ofWord number
  have least := number.le_toInt
  -- The unit is at most 512 below `2 ^ 62` and is 1024 from there on. Only the least word has the
  -- unit 2048, of which it is a multiple.
  by_cases small : number.toInt.natAbs < 2 ^ 62
  · have unit_le : unitOf number.toInt ≤ 2 ^ 9 := by
      refine Nat.pow_le_pow_right (by decide) ?_
      by_cases zero : number.toInt.natAbs = 0
      · rw [zero]
        decide
      · have log_lt := (Nat.log2_lt zero).mpr small
        omega
    omega
  · by_cases edge : number.toInt = -2 ^ 63
    · have unit_eq : unitOf number.toInt = 2 ^ 11 := by rw [edge]; decide
      rw [unit_eq] at multiple close
      omega
    · have log_eq : number.toInt.natAbs.log2 = 62 := log2_of_bounds (by omega) (by omega)
      rw [unitOf, log_eq] at multiple close
      omega

/-- The 512 greatest words are the same double, which is no word. -/
theorem toInt_ofWord_greatest {number : Int64} (outside : 2 ^ 63 - 512 ≤ number.toInt) :
    toInt (ofWord number) = 2 ^ 63 ∧ ofWord number = ofParts ⟨false, 2 ^ 63, 0⟩ := by
  obtain ⟨multiple, close, even⟩ := nearest_toInt_ofWord number
  have greatest := number.toInt_lt
  have log_eq : number.toInt.natAbs.log2 = 62 := log2_of_bounds (by omega) (by omega)
  rw [unitOf, log_eq] at multiple close even
  have whole_eq : toInt (ofWord number) = 2 ^ 63 := by omega
  have nearest_eq : nearestWhole number.toInt.natAbs = 2 ^ 63 := by
    rw [toInt_ofWord, Int.sign_eq_one_of_pos (by omega), Int.one_mul] at whole_eq
    omega
  rw [ofWord_eq_ofParts, nearest_eq, decide_eq_false (by omega)]
  exact ⟨by decide +kernel, rfl⟩

end Assay.Binary64
