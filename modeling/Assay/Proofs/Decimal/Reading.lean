import Assay.Proofs.Binary64.Packing
import Assay.Proofs.Decimal.Parts

/-!
# Reading numerals

A numeral has a double, and this is a number: what is rounded from a decimal is never NaN. A text of
digits with a minus and a fraction at most is such a numeral.
-/

namespace Assay

namespace Binary64

open Float.Model (Format UnpackedFloat)
open Float.Model.UnpackedFloat

/-- Whether a number is neither zero nor infinite. -/
def isProper : UnpackedFloat → Bool
  | .finite .. => true
  | _ => false

variable {spec : Format} {left right : UnpackedFloat}

theorem isNaN_mul_unpacked (left_number : left.isNaN = false) (right_proper : isProper right = true) :
    (mul spec left right).isNaN = false := by
  cases right with
  | finite _ _ _ _ =>
      cases left with
      | notANumber => cases left_number
      | infinity _ | zero _ => rfl
      | finite _ _ _ _ => exact isNaN_roundWithAccuracy ..
  | _ => cases right_proper

theorem isNaN_div_unpacked (left_number : left.isNaN = false) (right_proper : isProper right = true) :
    (div spec left right).isNaN = false := by
  cases right with
  | finite _ _ _ _ =>
      cases left with
      | notANumber => cases left_number
      | infinity _ | zero _ => rfl
      | finite _ _ _ _ => exact isNaN_roundWithAccuracy ..
  | _ => cases right_proper

theorem isNaN_ofScientific_unpacked (spec : Format) (digits : Nat) (exponent : Int) :
    (ofScientific spec digits exponent).isNaN = false := by
  rw [ofScientific]
  split
  · rfl
  · split
    · rfl
    · split
      · rfl
      · split
        · exact isNaN_mul_unpacked rfl rfl
        · exact isNaN_div_unpacked rfl rfl

section Doubles

variable {x y : Float}

/-- A number times one that is neither zero nor infinite is a number. -/
theorem isNaN_mul (x_number : x.isNaN = false) (y_proper : isProper y.toModel.unpack = true) :
    (x * y).isNaN = false :=
  (isNaN_unpack_pack _).trans (isNaN_mul_unpacked x_number y_proper)

/-- A number divided by one that is neither zero nor infinite is a number. -/
theorem isNaN_div (x_number : x.isNaN = false) (y_proper : isProper y.toModel.unpack = true) :
    (x / y).isNaN = false :=
  (isNaN_unpack_pack _).trans (isNaN_div_unpacked x_number y_proper)

@[simp]
theorem isNaN_neg : (-x).isNaN = x.isNaN := by
  refine (isNaN_unpack_pack x.toModel.unpack.neg).trans ?_
  change _ = x.toModel.unpack.isNaN
  cases x.toModel.unpack <;> rfl

end Doubles

theorem isProper_powerOfTen :
    ∀ places, (bound : places < Float.exactlyRepresentablePowersOfTen.size) →
      isProper Float.exactlyRepresentablePowersOfTen[places].toModel.unpack = true := by
  decide

/-- Digits with a power of ten make a number. -/
theorem isNaN_ofScientific (digits : Nat) (negative : Bool) (places : Nat) :
    (Float.ofScientific digits negative places).isNaN = false := by
  rw [Float.ofScientific]
  split
  case isTrue small =>
    have digits_number : digits.toUInt64.toFloat.isNaN = false :=
      (isNaN_unpack_pack _).trans (isNaN_normalize ..)
    have power_proper := isProper_powerOfTen places (Nat.lt_succ_of_le small.2)
    cases negative with
    | true => exact isNaN_div digits_number power_proper
    | false => exact isNaN_mul digits_number power_proper
  case isFalse => exact (isNaN_unpack_pack _).trans (isNaN_ofScientific_unpacked ..)

end Binary64

namespace Decimal

/-- The double of a decimal is a number. -/
theorem isNaN_toFloat (number : Decimal) : number.toFloat.isNaN = false := by
  rw [toFloat]
  split
  · rfl
  · split
    · rfl
    · split <;> exact Binary64.isNaN_ofScientific ..

/-! ## Numerals -/

/-- A text that starts with a digit does not agree in letters with one that starts with a letter. -/
theorem sameLetters_of_isDigit {first : Char} (digit : Text.isDigit first = true) (other : Char)
    (letter : Text.isDigit (Text.lowerChar other) = false) (others word : List Char) :
    Text.sameLetters (first :: others) (other :: word) = false := by
  have kept : Text.lowerChar first = first := by
    rw [Text.isDigit, Bool.and_eq_true, decide_eq_true_eq, decide_eq_true_eq] at digit
    refine if_neg fun upper => absurd (Char.le_trans upper.1 digit.2) (by decide)
  have apart : first ≠ Text.lowerChar other := Text.ne_of_isDigit digit letter
  rw [Text.sameLetters, List.map_cons, List.map_cons, kept]
  simp [apart]

/-- Digits with a minus in front and a fraction behind them at most. -/
inductive Numeral : List Char → Prop where
  | mk (negative : Bool) {whole fraction : List Char} (whole_ok : Digits whole)
      (fraction_ok : Fraction fraction) :
      Numeral (if negative then '-' :: (whole ++ fraction) else whole ++ fraction)

theorem exists_read?_eq {whole fraction : List Char} (whole_ok : Digits whole)
    (fraction_ok : Fraction fraction) : ∃ number, read? (whole ++ fraction) = some number := by
  have digitless : Digitless fraction := by
    have appended : Digitless (fraction ++ ([] ++ [])) :=
      fraction_ok.digitless_append .absent nofun
    rwa [List.append_nil, List.append_nil] at appended
  have nonempty : whole.isEmpty = false := List.isEmpty_eq_false_iff.mpr whole_ok.ne_nil
  rw [read?, takeWhile_digits_append whole_ok.isDigit digitless,
    dropWhile_digits_append whole_ok.isDigit digitless]
  cases fraction_ok with
  | absent => exact ⟨_, by simp [nonempty, readExponent?]; rfl⟩
  | @present digits digits_ok =>
      have digitless_end : Digitless [] := nofun
      have taken := takeWhile_digits_append digits_ok.isDigit digitless_end
      have dropped := dropWhile_digits_append digits_ok.isDigit digitless_end
      rw [List.append_nil] at taken dropped
      exact ⟨_, by simp [nonempty, taken, dropped, readExponent?]; rfl⟩

/-- What starts with a digit names neither an infinity nor NaN. -/
theorem readMagnitude?_eq {first : Char} (first_digit : Text.isDigit first = true)
    (others : List Char) :
    readMagnitude? (first :: others) = (read? (first :: others)).map toFloat := by
  have not_inf := sameLetters_of_isDigit first_digit 'i' rfl others
  have not_nan := sameLetters_of_isDigit first_digit 'n' rfl others
  rw [readMagnitude?, if_neg, if_neg]
  · exact Bool.eq_false_iff.mp (not_nan _)
  · rw [Bool.or_eq_true, not_or]
    exact ⟨Bool.eq_false_iff.mp (not_inf _), Bool.eq_false_iff.mp (not_inf _)⟩

/-- A numeral is read as a number. -/
theorem Numeral.exists_readFloat?_eq {chars : List Char} (numeral : Numeral chars) :
    ∃ number, readFloat? (String.ofList chars) = some number ∧ number.isNaN = false := by
  cases numeral with
  | @mk negative whole fraction whole_ok fraction_ok =>
      obtain ⟨number, read_eq⟩ := exists_read?_eq whole_ok fraction_ok
      obtain ⟨first, others, rfl, first_digit⟩ := whole_ok.exists_eq_cons
      have split_eq := splitSign_signed first_digit (others ++ fraction) negative
      have magnitude_eq : readMagnitude? (first :: (others ++ fraction)) = some number.toFloat := by
        rw [readMagnitude?_eq first_digit, ← List.cons_append, read_eq]
        rfl
      refine ⟨if negative then -number.toFloat else number.toFloat, ?_, ?_⟩
      · rw [readFloat?, String.toList_ofList, List.cons_append, split_eq]
        simp only [magnitude_eq, Option.map_some]
      · split
        · rw [Binary64.isNaN_neg, isNaN_toFloat]
        · exact isNaN_toFloat number

/-- A numeral starts with a digit or a minus, and goes on with digits and a point. -/
theorem Numeral.exists_eq_cons {chars : List Char} (numeral : Numeral chars) :
    ∃ first others, chars = first :: others ∧ (first = '-' ∨ Text.isDigit first = true) ∧
      ∀ char ∈ others, char = '.' ∨ Text.isDigit char = true := by
  cases numeral with
  | @mk negative whole fraction whole_ok fraction_ok =>
      have inner : ∀ char ∈ whole ++ fraction, char = '.' ∨ Text.isDigit char = true := by
        intro char mem
        rcases List.mem_append.mp mem with mem | mem
        · exact .inr (whole_ok.isDigit char mem)
        · cases fraction_ok with
          | absent => cases mem
          | present digits_ok =>
              rcases List.mem_cons.mp mem with rfl | mem
              · exact .inl rfl
              · exact .inr (digits_ok.isDigit char mem)
      obtain ⟨first, others, rfl, first_digit⟩ := whole_ok.exists_eq_cons
      cases negative with
      | true => exact ⟨'-', _, rfl, .inl rfl, inner⟩
      | false =>
          exact ⟨first, others ++ fraction, rfl, .inr first_digit,
            fun char mem => inner char (List.mem_cons_of_mem first mem)⟩

theorem dropWhile_isBlank {chars : List Char} (plain : ∀ char ∈ chars, Text.isBlank char = false) :
    chars.dropWhile Text.isBlank = chars := by
  cases chars with
  | nil => rfl
  | cons first others =>
      exact List.dropWhile_cons_of_neg (by simp [plain first List.mem_cons_self])

theorem trim_of_not_blank {chars : List Char} (plain : ∀ char ∈ chars, Text.isBlank char = false) :
    Text.trim (String.ofList chars) = String.ofList chars := by
  have plain_reverse : ∀ char ∈ chars.reverse, Text.isBlank char = false :=
    fun char mem => plain char (List.mem_reverse.mp mem)
  rw [Text.trim, String.toList_ofList, Text.trimChars, dropWhile_isBlank plain, Text.dropEnd,
    dropWhile_isBlank plain_reverse, List.reverse_reverse]

/-- Trimming leaves a numeral as it is. -/
theorem Numeral.trim_eq {chars : List Char} (numeral : Numeral chars) :
    Text.trim (String.ofList chars) = String.ofList chars := by
  obtain ⟨first, others, rfl, first_ok, others_ok⟩ := numeral.exists_eq_cons
  refine trim_of_not_blank fun char mem => ?_
  rcases List.mem_cons.mp mem with rfl | mem
  · rcases first_ok with rfl | digit
    · rfl
    · exact Text.isBlank_of_isDigit digit
  · rcases others_ok char mem with rfl | digit
    · rfl
    · exact Text.isBlank_of_isDigit digit

end Decimal

end Assay
