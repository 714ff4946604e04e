import Assay.Proofs.Binary64.Order
import Assay.Proofs.Binary64.Quotient

/-!
# Words as doubles

A word becomes the double nearest to it. The significand keeps the first 53 bits and is rounded by
what is cut off, so that a greater word never becomes a lesser double, and words up to `2 ^ 53` in
magnitude keep their order.
-/

namespace Assay.Binary64

open Float.Model (Format UnpackedFloat totalExponent)
open Float.Model.UnpackedFloat

/-! ## Cutting the last bits off -/

/-- A number without its last bits, and what rounding has to know of these. -/
def cut (number places : Nat) : ExtendedMantissa where
  mantissa := number / 2 ^ places
  roundBit := decide (2 ^ places ≤ 2 * (number % 2 ^ places))
  stickyBit := decide (number % 2 ^ places ≠ 0 ∧ 2 * (number % 2 ^ places) ≠ 2 ^ places)

theorem cut_eq_quotient (number places : Nat) : cut number places = quotient number (2 ^ places) :=
  rfl

theorem cut_zero (number : Nat) : cut number 0 = ⟨number, false, false⟩ := by
  simp [cut, Nat.mod_one]

/-- Shifting a whole number cuts its last bits off. -/
theorem shiftRight_exact (number places : Nat) :
    ExtendedMantissa.ofMantissaAndAccuracy number .exact >>> places = cut number places := by
  have whole_eq : ExtendedMantissa.ofMantissaAndAccuracy number .exact = quotient number 1 :=
    (cut_zero number).symm
  rw [whole_eq, shiftRight_quotient number Nat.one_pos, Nat.one_mul, cut_eq_quotient]

/-- A number rounded to what is left without its last bits, of two nearest ones to the even one. -/
def roundOff (number places : Nat) : Nat :=
  if 2 * (number % 2 ^ places) < 2 ^ places then number / 2 ^ places
  else if 2 * (number % 2 ^ places) = 2 ^ places then
    number / 2 ^ places + number / 2 ^ places % 2
  else number / 2 ^ places + 1

theorem roundedMantissa_cut (number places : Nat) :
    (cut number places).roundedMantissa = roundOff number places :=
  roundedMantissa_quotient number (Nat.two_pow_pos places)

theorem roundOff_zero (number : Nat) : roundOff number 0 = number := by
  simp [roundOff, Nat.mod_one]

theorem le_roundOff (number places : Nat) : number / 2 ^ places ≤ roundOff number places :=
  le_nearest number (2 ^ places)

theorem roundOff_le (number places : Nat) :
    roundOff number places ≤ number / 2 ^ places + 1 :=
  nearest_le number (2 ^ places)

/-- A greater number is never rounded to a lesser one. -/
theorem roundOff_mono {number number' : Nat} (ordered : number ≤ number') (places : Nat) :
    roundOff number places ≤ roundOff number' places :=
  nearest_mono ordered (2 ^ places)

/-! ## The nearest significand -/

/-- The first 53 bits of a positive number, rounded by the bits behind them. -/
def leading (number : Nat) : Nat :=
  roundOff (number * 2 ^ (52 - number.log2)) (number.log2 - 52)

/-- A number shifted up to 53 bits, if it has less. -/
theorem shifted_bounds {number : Nat} (positive : 0 < number) :
    2 ^ (52 + (number.log2 - 52)) ≤ number * 2 ^ (52 - number.log2) ∧
      number * 2 ^ (52 - number.log2) < 2 ^ (53 + (number.log2 - 52)) := by
  have low : 2 ^ number.log2 ≤ number := Nat.log2_self_le (Nat.ne_of_gt positive)
  have high : number < 2 ^ (number.log2 + 1) := Nat.lt_log2_self
  have low_eq : 52 + (number.log2 - 52) = number.log2 + (52 - number.log2) := by omega
  have high_eq : 53 + (number.log2 - 52) = number.log2 + 1 + (52 - number.log2) := by omega
  rw [low_eq, high_eq, Nat.pow_add, Nat.pow_add _ (number.log2 + 1)]
  have unit_pos : 0 < 2 ^ (52 - number.log2) := Nat.two_pow_pos _
  exact ⟨Nat.mul_le_mul_right _ low, Nat.mul_lt_mul_of_pos_right high unit_pos⟩

theorem log2_shifted {number : Nat} (positive : 0 < number) :
    (number * 2 ^ (52 - number.log2)).log2 = 52 + (number.log2 - 52) := by
  obtain ⟨low, high⟩ := shifted_bounds positive
  refine log2_of_bounds low ?_
  rwa [show 52 + (number.log2 - 52) + 1 = 53 + (number.log2 - 52) by omega]

theorem leading_bounds {number : Nat} (positive : 0 < number) :
    2 ^ 52 ≤ leading number ∧ leading number ≤ 2 ^ 53 := by
  obtain ⟨low, high⟩ := shifted_bounds positive
  have unit_pos : 0 < 2 ^ (number.log2 - 52) := Nat.two_pow_pos _
  rw [Nat.pow_add] at low high
  constructor
  · calc
      2 ^ 52 ≤ number * 2 ^ (52 - number.log2) / 2 ^ (number.log2 - 52) :=
        (Nat.le_div_iff_mul_le unit_pos).mpr low
      _ ≤ leading number := le_roundOff _ _
  · calc
      leading number ≤ number * 2 ^ (52 - number.log2) / 2 ^ (number.log2 - 52) + 1 :=
        roundOff_le _ _
      _ ≤ 2 ^ 53 := Nat.div_lt_of_lt_mul (by rwa [Nat.mul_comm (2 ^ (number.log2 - 52))])

/-- Exponent and significand of the double nearest to a positive number. Where the first 53 bits
are rounded up to 54, the last bit is cut off. -/
def place (number : Nat) : Int ×ₗ Int :=
  if leading number = 2 ^ 53 then toLex ((number.log2 : Int) - 51, ((2 ^ 52 : Nat) : Int))
  else toLex ((number.log2 : Int) - 52, (leading number : Int))

theorem targetExponent_binary64 (total : Int) :
    Format.binary64.targetExponent total = max (total - 53) (-1074) := rfl

/-- An exact number is shifted to its target exponent by cutting its last bits off. -/
theorem shiftToTargetExponent_exact (number : Nat) (exponent : Int) (places : Nat)
    (places_eq : ((max (number.log2 + 1 + exponent - 53) (-1074) : Int) - exponent).toNat = places) :
    shiftToTargetExponent Format.binary64 number exponent .exact =
      (cut number places, exponent + places) := by
  rw [shiftToTargetExponent, targetExponent_binary64, totalExponent, shiftToExponent, places_eq,
    shiftRight_exact]

theorem round_eq (number : Nat) (sign : Sign) :
    UnpackedFloat.round Format.binary64 sign number 0 =
      roundWithAccuracy Format.binary64 sign (number * 2 ^ (52 - number.log2))
        (-((52 - number.log2 : Nat) : Int)) .exact := by
  have target_eq : Format.binary64.targetExponent (totalExponent number 0) =
      (number.log2 : Int) - 52 := by
    rw [targetExponent_binary64, totalExponent]
    omega
  have up_eq : (0 - ((number.log2 : Int) - 52)).toNat = 52 - number.log2 := by omega
  rw [UnpackedFloat.round, target_eq, decreaseExponent, up_eq, Nat.shiftLeft_eq, Int.zero_sub]

/-- Rounding a positive number below `2 ^ 64` gives its place. -/
theorem exists_round_eq {number : Nat} (positive : 0 < number) (bound : number < 2 ^ 64)
    (sign : Sign) : ∃ significand exponent positive',
      UnpackedFloat.round Format.binary64 sign number 0 = .finite sign significand exponent positive' ∧
        toLex (exponent, (significand : Int)) = place number ∧ 2 ^ 52 ≤ significand ∧
        significand < 2 ^ 53 ∧ -52 ≤ exponent ∧ exponent ≤ 12 := by
  have log_lt : number.log2 < 64 := (Nat.log2_lt (Nat.ne_of_gt positive)).mpr bound
  obtain ⟨low, high⟩ := leading_bounds positive
  have first_shift := shiftToTargetExponent_exact (number * 2 ^ (52 - number.log2))
    (-((52 - number.log2 : Nat) : Int)) (number.log2 - 52)
    (by rw [log2_shifted positive]; omega)
  have exponent_eq : -((52 - number.log2 : Nat) : Int) + (number.log2 - 52 : Nat) =
      (number.log2 : Int) - 52 := by omega
  rw [exponent_eq] at first_shift
  rw [round_eq, roundWithAccuracy, first_shift]
  dsimp only
  rw [roundedMantissa_cut, ← leading]
  rw [place]
  rcases Nat.eq_or_lt_of_le high with full | room
  · have second_shift := shiftToTargetExponent_exact (leading number) ((number.log2 : Int) - 52)
      1 (by rw [full, Nat.log2_two_pow]; omega)
    have kept_eq : (cut (leading number) 1).mantissa = 2 ^ 52 := by rw [full]; rfl
    simp only [second_shift, kept_eq, if_pos full]
    refine ⟨_, _, Nat.two_pow_pos 52, dif_neg (by decide), ?_, Nat.le_refl _, by decide,
      by omega, by omega⟩
    rw [show (number.log2 : Int) - 52 + (1 : Nat) = number.log2 - 51 by omega]
  · have second_shift := shiftToTargetExponent_exact (leading number) ((number.log2 : Int) - 52)
      0 (by rw [log2_of_bounds low room]; omega)
    simp only [second_shift, cut_zero, if_neg (Nat.ne_of_lt room)]
    refine ⟨_, _, Nat.lt_of_lt_of_le (Nat.two_pow_pos 52) low, dif_neg (by omega), ?_, low, room,
      by omega, by omega⟩
    rw [Int.natCast_zero, Int.add_zero]

/-! ## The order of places -/

theorem log2_mono {number number' : Nat} (positive : 0 < number) (ordered : number ≤ number') :
    number.log2 ≤ number'.log2 := by
  have positive' : 0 < number' := Nat.lt_of_lt_of_le positive ordered
  exact (Nat.le_log2 (Nat.ne_of_gt positive')).mpr
    (Nat.le_trans (Nat.log2_self_le (Nat.ne_of_gt positive)) ordered)

/-- A greater number never has a lesser place. -/
theorem place_mono {number number' : Nat} (positive : 0 < number) (ordered : number ≤ number') :
    place number ≤ place number' := by
  have positive' : 0 < number' := Nat.lt_of_lt_of_le positive ordered
  obtain ⟨low, high⟩ := leading_bounds positive
  obtain ⟨low', high'⟩ := leading_bounds positive'
  rw [place, place]
  rcases Nat.eq_or_lt_of_le (log2_mono positive ordered) with same | less
  · have leading_le : leading number ≤ leading number' := by
      rw [leading, leading, same]
      exact roundOff_mono (Nat.mul_le_mul_right _ ordered) _
    rw [same]
    split <;> split <;> rw [Prod.Lex.toLex_le_toLex] <;> grind
  · split <;> split <;> rw [Prod.Lex.toLex_le_toLex] <;> grind

/-- A number below `2 ^ 53` keeps all its bits. -/
theorem leading_of_lt {number : Nat} (positive : 0 < number) (bound : number < 2 ^ 53) :
    leading number = number * 2 ^ (52 - number.log2) ∧ leading number < 2 ^ 53 := by
  have log_lt : number.log2 < 53 := (Nat.log2_lt (Nat.ne_of_gt positive)).mpr bound
  have down_eq : number.log2 - 52 = 0 := by omega
  obtain ⟨-, high⟩ := shifted_bounds positive
  rw [down_eq] at high
  rw [leading, down_eq, roundOff_zero]
  exact ⟨rfl, high⟩

/-- Numbers up to `2 ^ 53` have places in their own order. -/
theorem place_strictMono {number number' : Nat} (positive : 0 < number)
    (ordered : number < number') (bound : number' ≤ 2 ^ 53) : place number < place number' := by
  have positive' : 0 < number' := Nat.lt_trans positive ordered
  obtain ⟨exact_eq, room⟩ := leading_of_lt positive (Nat.lt_of_lt_of_le ordered bound)
  have log_le : number.log2 ≤ number'.log2 := log2_mono positive (Nat.le_of_lt ordered)
  rw [place, place, if_neg (Nat.ne_of_lt room)]
  rcases Nat.eq_or_lt_of_le bound with full | below
  · have log_lt : number.log2 < 53 :=
      (Nat.log2_lt (Nat.ne_of_gt positive)).mpr (Nat.lt_of_lt_of_le ordered bound)
    have log_eq : number'.log2 = 53 := by rw [full, Nat.log2_two_pow]
    split <;> rw [Prod.Lex.toLex_lt_toLex] <;> omega
  · obtain ⟨exact_eq', room'⟩ := leading_of_lt positive' below
    rw [if_neg (Nat.ne_of_lt room'), Prod.Lex.toLex_lt_toLex]
    rcases Nat.eq_or_lt_of_le log_le with same | less
    · refine .inr ⟨by rw [same], ?_⟩
      rw [exact_eq, exact_eq', same, Int.ofNat_lt]
      exact Nat.mul_lt_mul_of_pos_right ordered (Nat.two_pow_pos _)
    · exact .inl (by omega)

/-! ## Words -/

@[simp]
theorem isNaN_ofWord (number : Int64) : (ofWord number).isNaN = false :=
  (isNaN_unpack_pack _).trans (isNaN_normalize ..)

/-- A whole number other than zero is rounded by its magnitude. -/
theorem normalize_eq_round {number : Int} (nonzero : number ≠ 0) :
    UnpackedFloat.normalize Format.binary64 number 0 .positive =
      UnpackedFloat.round Format.binary64 (signOf (decide (number < 0))) number.natAbs 0 := by
  rw [UnpackedFloat.normalize]
  rcases Int.lt_or_gt_of_ne nonzero with negative | positive
  · rw [compare_lt_iff_lt.mpr negative, decide_eq_true negative,
      show number.natAbs = (-number).toNat by omega]
    rfl
  · rw [compare_gt_iff_gt.mpr positive, decide_eq_false (by omega),
      show number.natAbs = number.toNat by omega]
    rfl

/-- A word other than zero is a packed double with the place of its magnitude. -/
theorem exists_ofWord_eq {number : Int64} (nonzero : number.toInt ≠ 0) : ∃ significand exponent,
    ∃ full : Full significand exponent,
      toLex (exponent, (significand : Int)) = place number.toInt.natAbs ∧
        ofWord number = packed (decide (number.toInt < 0)) full := by
  have model_eq : ofWord number = .ofModel (Float.Model.pack
      (UnpackedFloat.normalize Format.binary64 number.toInt 0 .positive)) := rfl
  have least := number.le_toInt
  have greatest := number.toInt_lt
  obtain ⟨significand, exponent, positive, rounded, place_eq, low, high, above, below⟩ :=
    exists_round_eq (show 0 < number.toInt.natAbs by omega) (by omega)
      (signOf (decide (number.toInt < 0)))
  refine ⟨significand, exponent, ⟨low, high, by omega, by omega⟩, place_eq, ?_⟩
  rw [model_eq, normalize_eq_round nonzero, rounded]
  rfl

/-- The rank of a whole number by its sign and the place of its magnitude. -/
def wholeRank (number : Int) : Int ×ₗ Int ×ₗ Int :=
  let (exponent, significand) := ofLex (place number.natAbs)
  toLex (number.sign, toLex (number.sign * exponent, number.sign * significand))

theorem rank_ofWord (number : Int64) : rank (ofWord number) = wholeRank number.toInt := by
  by_cases zero : number.toInt = 0
  · obtain rfl : number = 0 := Int64.toInt_inj.mp zero
    decide +kernel
  · obtain ⟨significand, exponent, full, place_eq, word_eq⟩ := exists_ofWord_eq zero
    rw [word_eq, rank, unpack_packed, wholeRank, ← place_eq]
    rcases Int.lt_or_gt_of_ne zero with negative | positive
    · rw [decide_eq_true negative, Int.sign_eq_neg_one_of_neg negative]
      simp only [ofLex_toLex, Int.neg_one_mul]
      rfl
    · rw [decide_eq_false (by omega), Int.sign_eq_one_of_pos positive]
      simp only [ofLex_toLex, Int.one_mul]
      rfl

/-- The places of two numbers that are neither zero stand as the ranks do if both are positive,
and the other way if both are negative. -/
theorem wholeRank_le_of_place {number number' : Int} (same : number.sign = number'.sign)
    (positive : 0 < number → place number.natAbs ≤ place number'.natAbs)
    (negative : number < 0 → place number'.natAbs ≤ place number.natAbs) :
    wholeRank number ≤ wholeRank number' := by
  rw [wholeRank, wholeRank, Prod.Lex.toLex_le_toLex, Prod.Lex.toLex_le_toLex, ← same]
  refine .inr ⟨rfl, ?_⟩
  rcases Int.lt_trichotomy number 0 with below | rfl | above
  · have ordered := Prod.Lex.le_iff.mp (negative below)
    rw [Int.sign_eq_neg_one_of_neg below]
    omega
  · exact .inr ⟨by simp, by simp⟩
  · have ordered := Prod.Lex.le_iff.mp (positive above)
    rw [Int.sign_eq_one_of_pos above]
    omega

/-- A greater number never has a lesser rank. -/
theorem wholeRank_mono : Monotone wholeRank := by
  intro number number' ordered
  have sign_le : number.sign ≤ number'.sign := by grind
  rcases lt_or_eq_of_le sign_le with less | same
  · exact Prod.Lex.toLex_le_toLex.mpr (.inl less)
  · refine wholeRank_le_of_place same (fun positive => ?_) fun negative => ?_
    · exact place_mono (by omega) (by omega)
    · have negative' : number' < 0 := by
        rwa [← Int.sign_eq_neg_one_iff_neg, ← same, Int.sign_eq_neg_one_iff_neg]
      exact place_mono (by omega) (by omega)

/-- Only zero has the rank of zero. -/
theorem wholeRank_eq_zero_iff {number : Int} : wholeRank number = wholeRank 0 ↔ number = 0 := by
  refine ⟨fun same => ?_, fun zero => by rw [zero]⟩
  have sign_eq : number.sign = Int.sign 0 := congrArg (fun rank => (ofLex rank).1) same
  exact Int.sign_eq_zero_iff_zero.mp sign_eq

theorem place_inj {number number' : Nat} (positive : 0 < number) (positive' : 0 < number')
    (bound : number ≤ 2 ^ 53) (bound' : number' ≤ 2 ^ 53) (same : place number = place number') :
    number = number' := by
  rcases Nat.lt_trichotomy number number' with less | equal | greater
  · exact absurd same (place_strictMono positive less bound').ne
  · exact equal
  · exact absurd same (place_strictMono positive' greater bound).ne'

/-- Numbers up to `2 ^ 53` in magnitude do not share a rank. -/
theorem wholeRank_inj {number number' : Int} (bound : number.natAbs ≤ 2 ^ 53)
    (bound' : number'.natAbs ≤ 2 ^ 53) (same : wholeRank number = wholeRank number') :
    number = number' := by
  obtain ⟨sign_eq, exponent_eq, significand_eq⟩ :
      number.sign = number'.sign ∧
      number.sign * (ofLex (place number.natAbs)).1 =
        number'.sign * (ofLex (place number'.natAbs)).1 ∧
      number.sign * (ofLex (place number.natAbs)).2 =
        number'.sign * (ofLex (place number'.natAbs)).2 := by
    simpa [wholeRank] using same
  by_cases zero : number = 0
  · grind
  · have sign_ne : number'.sign ≠ 0 := by grind
    rw [sign_eq] at exponent_eq significand_eq
    have place_eq : place number.natAbs = place number'.natAbs :=
      ofLex.injective (Prod.ext (Int.eq_of_mul_eq_mul_left sign_ne exponent_eq)
        (Int.eq_of_mul_eq_mul_left sign_ne significand_eq))
    have natAbs_eq := place_inj (by grind) (by grind) bound bound' place_eq
    grind

/-! ## Words as doubles -/

variable {x y : Int64}

/-- A word is never less as a double than a lesser word. -/
theorem rank_ofWord_mono (ordered : x.toInt ≤ y.toInt) : rank (ofWord x) ≤ rank (ofWord y) := by
  rw [rank_ofWord, rank_ofWord]
  exact wholeRank_mono ordered

/-- Words up to `2 ^ 53` in magnitude are different doubles. -/
theorem rank_ofWord_inj (x_bound : x.toInt.natAbs ≤ 2 ^ 53) (y_bound : y.toInt.natAbs ≤ 2 ^ 53)
    (same : rank (ofWord x) = rank (ofWord y)) : x = y := by
  rw [rank_ofWord, rank_ofWord] at same
  exact Int64.toInt_inj.mp (wholeRank_inj x_bound y_bound same)

/-- Only zero is zero as a double. -/
theorem ofWord_beq_zero : (ofWord x == 0) = true ↔ x = 0 := by
  have zero_eq : (0 : Float) = ofWord 0 := rfl
  rw [zero_eq, beq_iff_rank_eq (isNaN_ofWord x) (isNaN_ofWord 0), rank_ofWord, rank_ofWord,
    Int64.toInt_zero, wholeRank_eq_zero_iff, ← Int64.toInt_inj, Int64.toInt_zero]

end Assay.Binary64
