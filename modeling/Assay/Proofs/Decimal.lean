import Assay.Decimal.Layout
import Mathlib.Data.List.Basic

/-!
# Digits of numbers

The digits that a number is written with spell it, and they start with a zero only where they spell
zero. What is left of a number other than zero without the zeros at its end is not zero. The number
of a word is held by that word.
-/

namespace Assay

namespace Text

theorem isDigit_of_isDigit {char : Char} (digit : char.isDigit = true) : isDigit char = true := by
  simp only [Char.isDigit, Bool.and_eq_true, decide_eq_true_eq] at digit
  rw [isDigit, Bool.and_eq_true, decide_eq_true_eq, decide_eq_true_eq]
  exact digit

theorem isBlank_of_isWordChar {char : Char} (word : isWordChar char = true) :
    isBlank char = false := by
  have code : 97 ≤ char.toNat ∧ char.toNat ≤ 122 ∨ 65 ≤ char.toNat ∧ char.toNat ≤ 90 ∨
      48 ≤ char.toNat ∧ char.toNat ≤ 57 ∨ char.toNat = 95 := by
    simp only [isWordChar, isDigit, Bool.or_eq_true, Bool.and_eq_true,
      decide_eq_true_eq, beq_iff_eq] at word
    rcases word with ((small | large) | digit) | rfl
    · exact .inl small
    · exact .inr (.inl large)
    · exact .inr (.inr (.inl digit))
    · exact .inr (.inr (.inr rfl))
  simp only [isBlank, Bool.or_eq_false_iff, Bool.and_eq_false_iff, decide_eq_false_iff_not,
    beq_eq_false_iff_ne]
  omega

theorem isBlank_of_isDigit {char : Char} (digit : isDigit char = true) : isBlank char = false :=
  isBlank_of_isWordChar (by rw [isWordChar, digit, Bool.or_true, Bool.true_or])

theorem ne_of_isDigit {char other : Char} (digit : isDigit char = true)
    (nondigit : isDigit other = false) : char ≠ other := by
  rintro rfl
  exact Bool.false_ne_true (nondigit.symm.trans digit)

theorem digitValue_pos {char : Char} (digit : isDigit char = true) (nonzero : char ≠ '0') :
    0 < digitValue char := by
  rw [isDigit, Bool.and_eq_true, decide_eq_true_eq] at digit
  have above : '0'.toNat ≤ char.toNat := digit.1
  have apart : char.toNat ≠ '0'.toNat := fun same => nonzero (Char.toNat_inj.mp same)
  rw [digitValue]
  omega

/-- Digits with another one than zero in front spell no zero. -/
theorem numeral_cons_pos {digit : Char} (rest : List Char) (isDigit : isDigit digit = true)
    (nonzero : digit ≠ '0') : 0 < numeral (digit :: rest) := by
  have value_pos : 0 < digitValue digit := digitValue_pos isDigit nonzero
  have split : numeral (digit :: rest) = Nat.ofDigitChars 10 rest (digitValue digit) := by
    rw [numeral, List.foldl_cons, Nat.mul_zero, Nat.zero_add]
    rfl
  have power_pos : 0 < 10 ^ rest.length := Nat.pow_pos (by decide)
  rw [split, Nat.ofDigitChars_eq_ofDigitChars_zero]
  exact Nat.add_pos_left (Nat.mul_pos power_pos value_pos) _

end Text

namespace Decimal

/-- At least one digit, and nothing but digits. -/
structure Digits (chars : List Char) : Prop where
  ne_nil : chars ≠ []
  isDigit : ∀ char ∈ chars, Text.isDigit char = true

/-- The digits of a whole number. A zero stands in front only on its own. -/
structure Whole (chars : List Char) : Prop extends Digits chars where
  bare : ∀ rest, chars = '0' :: rest → rest = []

theorem Digits.exists_eq_cons {chars : List Char} (digits : Digits chars) :
    ∃ first others, chars = first :: others ∧ Text.isDigit first = true := by
  cases chars with
  | nil => exact absurd rfl digits.ne_nil
  | cons first others => exact ⟨first, others, rfl, digits.isDigit first List.mem_cons_self⟩

theorem numeral_toDigits (number : Nat) : Text.numeral (Nat.toDigits 10 number) = number :=
  Nat.ofDigitChars_ten_toDigits

theorem digits_toDigits (number : Nat) : Digits (Nat.toDigits 10 number) where
  ne_nil := Nat.toDigits_ne_nil
  isDigit _ mem :=
    Text.isDigit_of_isDigit (Nat.isDigit_of_mem_toDigits (by decide) (by decide) mem)

/-- The digits of a number start with a zero only if there are no others. -/
theorem whole_toDigits (number : Nat) : Whole (Nat.toDigits 10 number) where
  toDigits := digits_toDigits number
  bare := by
    induction number using Nat.strongRecOn with
    | ind number ih =>
        intro rest starts
        rw [Nat.toDigits_eq_if (by decide)] at starts
        split at starts
        · exact (List.cons.inj starts).2.symm
        · rename_i large
          -- The digits before the last one are those of a number other than zero.
          cases front : Nat.toDigits 10 (number / 10) with
          | nil => exact absurd front Nat.toDigits_ne_nil
          | cons first others =>
              rw [front, List.cons_append] at starts
              obtain ⟨rfl, _⟩ := List.cons.inj starts
              have alone : others = [] := ih (number / 10) (by omega) others front
              have value_eq := numeral_toDigits (number / 10)
              rw [front, alone] at value_eq
              have zero_eq : Text.numeral ['0'] = 0 := rfl
              omega

/-- The digits of a number other than zero start with another digit than zero. -/
theorem exists_toDigits_eq_cons {number : Nat} (nonzero : number ≠ 0) :
    ∃ first rest, Nat.toDigits 10 number = first :: rest ∧ first ≠ '0' := by
  cases digits : Nat.toDigits 10 number with
  | nil => exact absurd digits Nat.toDigits_ne_nil
  | cons first rest =>
      refine ⟨first, rest, rfl, ?_⟩
      rintro rfl
      have alone : rest = [] := (whole_toDigits number).bare rest digits
      have value_eq := numeral_toDigits number
      rw [digits, alone] at value_eq
      exact nonzero value_eq.symm

theorem dropEnd_cons {test : Char → Bool} {first : Char} (rest : List Char)
    (keeps : test first = false) :
    Text.dropEnd test (first :: rest) = first :: Text.dropEnd test rest := by
  rw [Text.dropEnd, Text.dropEnd, List.reverse_cons, List.dropWhile_append]
  split
  · rename_i all_dropped
    rw [List.isEmpty_iff] at all_dropped
    simp [all_dropped, keeps]
  · simp

/-- Dropping the zeros at its end leaves of a number other than zero another one than zero. -/
theorem strip_digits_ne_zero {number : Decimal} (nonzero : number.digits ≠ 0) :
    number.strip.digits ≠ 0 := by
  obtain ⟨first, rest, digits_eq, first_ne⟩ := exists_toDigits_eq_cons nonzero
  have first_digit : Text.isDigit first = true :=
    (digits_toDigits number.digits).isDigit first (digits_eq ▸ List.mem_cons_self)
  rw [strip, digits_eq, dropEnd_cons rest (by simpa using first_ne)]
  exact Nat.ne_of_gt (Text.numeral_cons_pos _ first_digit first_ne)

end Decimal

/-- A word is found for its own number. -/
theorem word?_toInt (number : Int64) : word? number.toInt = some number := by
  rw [word?, if_pos ⟨Int64.minValue_le_toInt number, Int64.toInt_le number⟩, Int64.ofInt_toInt]

end Assay
