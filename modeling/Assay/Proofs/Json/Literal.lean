import Assay.Json.Decode
import Assay.Proofs.Decimal.Parts

/-!
# Literals of numbers

The grammar of the literals of numbers. A literal is read whole wherever the text after it does not
go on with it. Doubles that are finite and whole numbers are written as literals, and the value of
a literal that a 64-bit word is written as is that word.
-/

namespace Assay.Json

open Decimal (Digits Whole Fraction Exponent goesOn Ends Digitless digitless_cons
  takeWhile_digits_append dropWhile_digits_append splitSign_signed)

/-- The literal of a number without a sign. -/
inductive Magnitude : List Char → Prop where
  | mk {whole fraction exponent : List Char} (whole_ok : Whole whole)
      (fraction_ok : Fraction fraction) (exponent_ok : Exponent exponent) :
      Magnitude (whole ++ fraction ++ exponent)

/-- The literal of a number. -/
inductive Literal : List Char → Prop where
  | plain {chars : List Char} (magnitude : Magnitude chars) : Literal chars
  | minus {chars : List Char} (magnitude : Magnitude chars) : Literal ('-' :: chars)

/-! ## Reading literals -/

section

variable {digits rest : List Char}

theorem digits?_append (digits_ok : Digits digits) (digitless : Digitless rest) :
    digits? (digits ++ rest) = some (digits, rest) := by
  rw [digits?, takeWhile_digits_append digits_ok.isDigit digitless,
    dropWhile_digits_append digits_ok.isDigit digitless]
  cases digits with
  | nil => exact absurd rfl digits_ok.ne_nil
  | cons _ _ => rfl

theorem wholePart?_append (whole : Whole digits) (digitless : Digitless rest) :
    wholePart? (digits ++ rest) = some (digits, rest) := by
  rw [wholePart?, digits?_append whole.toDigits digitless]
  split
  · rename_i read
    obtain ⟨rfl, -⟩ := Prod.mk.inj (Option.some.inj read)
    exact absurd (whole.bare _ rfl) (List.cons_ne_nil _ _)
  · rfl

theorem fraction?_append {fraction : List Char} (fraction_ok : Fraction fraction)
    (digitless : Digitless rest) (pointless : ∀ char ∈ rest.head?, char ≠ '.') :
    fraction? (fraction ++ rest) = some (fraction, rest) := by
  cases fraction_ok with
  | present digits_ok => simp [fraction?, digits?_append digits_ok digitless]
  | absent =>
      cases rest with
      | nil => rfl
      | cons first rest => simp [fraction?, pointless first rfl]

theorem exponent?_append {exponent : List Char} (exponent_ok : Exponent exponent)
    (ends : Ends rest) : exponent? (exponent ++ rest) = some (exponent, rest) := by
  cases exponent_ok with
  | absent =>
      cases rest with
      | nil => rfl
      | cons first rest =>
          have stops := ends first rfl
          simp only [goesOn, Bool.or_eq_false_iff, beq_eq_false_iff_ne] at stops
          simp [exponent?, stops.1.2, stops.2]
  | bare mark_ok digits_ok =>
      obtain ⟨first, others, rfl, first_digit⟩ := digits_ok.exists_eq_cons
      have not_plus : first ≠ '+' := Text.ne_of_isDigit first_digit (by decide)
      have not_minus : first ≠ '-' := Text.ne_of_isDigit first_digit (by decide)
      have read := digits?_append digits_ok ends.digitless
      rw [List.cons_append] at read
      simp [exponent?, mark_ok, not_plus, not_minus, read]
  | signed mark_ok sign_ok digits_ok =>
      simp [exponent?, mark_ok, sign_ok, digits?_append digits_ok ends.digitless]

end

theorem Magnitude.exists_eq_cons {chars : List Char} (magnitude : Magnitude chars) :
    ∃ first others, chars = first :: others ∧ Text.isDigit first = true := by
  cases magnitude with
  | @mk whole fraction exponent whole_ok =>
      obtain ⟨first, others, rfl, first_digit⟩ := whole_ok.toDigits.exists_eq_cons
      exact ⟨first, others ++ fraction ++ exponent, rfl, first_digit⟩

/-- A literal starts with a minus or a digit. -/
theorem Literal.exists_eq_cons {literal : List Char} (literal_ok : Literal literal) :
    ∃ first others, literal = first :: others ∧ (first = '-' ∨ Text.isDigit first = true) := by
  cases literal_ok with
  | minus => exact ⟨'-', _, rfl, .inl rfl⟩
  | plain magnitude =>
      obtain ⟨first, others, starts, first_digit⟩ := magnitude.exists_eq_cons
      exact ⟨first, others, starts, .inr first_digit⟩

/-- What follows the sign of a literal is read whole, one part after the other. -/
theorem Magnitude.read_append {chars rest : List Char} (magnitude : Magnitude chars)
    (ends : Ends rest) (sign : List Char) :
    (do
      let (whole, rest) ← wholePart? (chars ++ rest)
      let (fraction, rest) ← fraction? rest
      let (exponent, rest) ← exponent? rest
      return (sign ++ whole ++ fraction ++ exponent, rest)) = some (sign ++ chars, rest) := by
  cases magnitude with
  | @mk whole fraction exponent whole_ok fraction_ok exponent_ok =>
      have whole_read := wholePart?_append whole_ok (fraction_ok.digitless_append exponent_ok ends)
      have fraction_read := fraction?_append fraction_ok (exponent_ok.digitless_append ends)
        (exponent_ok.pointless_append ends)
      simp [whole_read, fraction_read, exponent?_append exponent_ok ends]

/-- The literal of a number is read whole. -/
theorem literal?_append {literal rest : List Char} (literal_ok : Literal literal)
    (ends : Ends rest) : literal? (literal ++ rest) = some (literal, rest) := by
  cases literal_ok with
  | minus magnitude => exact magnitude.read_append ends ['-']
  | plain magnitude =>
      have read := magnitude.read_append ends []
      obtain ⟨first, others, rfl, first_digit⟩ := magnitude.exists_eq_cons
      have not_minus : first ≠ '-' := Text.ne_of_isDigit first_digit (by decide)
      rw [literal?]
      · exact read
      · intro after_minus starts
        exact not_minus (List.cons.inj starts).1

/-! ## Whole numbers -/

/-- A whole number is written with its digits, after a minus if it is negative. -/
theorem toList_toString (number : Int) :
    (toString number).toList =
      if number < 0 then '-' :: Nat.toDigits 10 number.natAbs
      else Nat.toDigits 10 number.natAbs := by
  cases number with
  | ofNat magnitude =>
      have nonnegative : ¬Int.ofNat magnitude < 0 := Int.not_lt.mpr (Int.natCast_nonneg magnitude)
      rw [if_neg nonnegative]
      exact Nat.toList_repr
  | negSucc predecessor =>
      rw [if_pos (Int.negSucc_lt_zero predecessor)]
      change ("-" ++ predecessor.succ.repr).toList = _
      rw [String.toList_append, Nat.toList_repr]
      rfl

theorem magnitude_toDigits (number : Nat) : Magnitude (Nat.toDigits 10 number) := by
  have magnitude := Magnitude.mk (Decimal.whole_toDigits number) .absent .absent
  rwa [List.append_nil, List.append_nil] at magnitude

theorem literal_toString (number : Int) : Literal (toString number).toList := by
  rw [toList_toString]
  split
  · exact .minus (magnitude_toDigits _)
  · exact .plain (magnitude_toDigits _)

/-- A literal of digits, with or without a minus, has no other parts. -/
theorem literalParts_digits {digits : List Char} (digits_ok : Digits digits) (negative : Bool) :
    literalParts (if negative then '-' :: digits else digits) = ⟨negative, digits, [], none⟩ := by
  have digitless : Digitless [] := nofun
  have taken := takeWhile_digits_append digits_ok.isDigit digitless
  have dropped := dropWhile_digits_append digits_ok.isDigit digitless
  rw [List.append_nil] at taken dropped
  obtain ⟨first, others, rfl, first_digit⟩ := digits_ok.exists_eq_cons
  have not_minus : first ≠ '-' := Text.ne_of_isDigit first_digit (by decide)
  rw [literalParts, splitSign_signed first_digit]
  cases negative <;> simp [not_minus, taken, dropped]

/-- The value of the literal of a 64-bit word is that word, and no double. -/
theorem numberValue?_toString (number : Int64) :
    numberValue? (toString number.toInt).toList = some (.int number) := by
  have digits_ok := Decimal.digits_toDigits number.toInt.natAbs
  have value_eq := Decimal.numeral_toDigits number.toInt.natAbs
  rw [toList_toString]
  split
  · rename_i negative
    have nonzero : number.toInt.natAbs ≠ 0 := by omega
    have same : -(number.toInt.natAbs : Int) = number.toInt := by omega
    have parts_eq := literalParts_digits digits_ok true
    simp only [if_true] at parts_eq
    simp only [numberValue?, parts_eq, value_eq, same, word?_toInt, List.isEmpty_nil,
      Option.isNone_none, Bool.and_self, if_true, Bool.true_and, beq_eq_false_iff_ne.mpr nonzero,
      Bool.false_eq_true, if_false]
  · rename_i nonnegative
    have same : (number.toInt.natAbs : Int) = number.toInt := by omega
    have parts_eq := literalParts_digits digits_ok false
    simp only [Bool.false_eq_true, if_false] at parts_eq
    simp only [numberValue?, parts_eq, value_eq, same, word?_toInt, List.isEmpty_nil,
      Option.isNone_none, Bool.and_self, if_true, Bool.false_and, Bool.false_eq_true, if_false]

end Assay.Json
