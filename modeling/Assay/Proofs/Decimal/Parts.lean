import Assay.Proofs.Decimal

/-!
# Parts of a numeral

A number in decimals is written with digits, a point with digits after it and an exponent. A run of
digits is read whole wherever the text after it does not go on with digits, and each of the other
parts ends the digits before it.
-/

namespace Assay.Decimal

/-- A point and the digits after it, or neither. -/
inductive Fraction : List Char → Prop where
  | absent : Fraction []
  | present {digits : List Char} (digits_ok : Digits digits) : Fraction ('.' :: digits)

/-- A mark and the digits after it, with or without a sign, or nothing. -/
inductive Exponent : List Char → Prop where
  | absent : Exponent []
  | bare {mark : Char} {digits : List Char} (mark_ok : mark = 'e' ∨ mark = 'E')
      (digits_ok : Digits digits) : Exponent (mark :: digits)
  | signed {mark sign : Char} {digits : List Char} (mark_ok : mark = 'e' ∨ mark = 'E')
      (sign_ok : sign = '+' ∨ sign = '-') (digits_ok : Digits digits) :
      Exponent (mark :: sign :: digits)

/-- Whether a literal goes on with a character. -/
def goesOn (char : Char) : Bool :=
  Text.isDigit char || char == '.' || char == 'e' || char == 'E'

/-- A text that does not go on with a literal. -/
def Ends (rest : List Char) : Prop := ∀ char ∈ rest.head?, goesOn char = false

/-- A text that does not go on with digits. -/
def Digitless (rest : List Char) : Prop := ∀ char ∈ rest.head?, Text.isDigit char = false

theorem Ends.digitless {rest : List Char} (ends : Ends rest) : Digitless rest := by
  intro char first
  have stops := ends char first
  simp only [goesOn, Bool.or_eq_false_iff] at stops
  exact stops.1.1.1

theorem digitless_cons {char : Char} (rest : List Char) (nondigit : Text.isDigit char = false) :
    Digitless (char :: rest) := by
  rintro _ ⟨⟩
  exact nondigit

theorem Digitless.takeWhile_eq {rest : List Char} (digitless : Digitless rest) :
    rest.takeWhile Text.isDigit = [] := by
  cases rest with
  | nil => rfl
  | cons first _ => exact List.takeWhile_cons_of_neg (by simp [digitless first rfl])

theorem Digitless.dropWhile_eq {rest : List Char} (digitless : Digitless rest) :
    rest.dropWhile Text.isDigit = rest := by
  cases rest with
  | nil => rfl
  | cons first _ => exact List.dropWhile_cons_of_neg (by simp [digitless first rfl])

section

variable {digits rest : List Char} (digits_ok : ∀ char ∈ digits, Text.isDigit char = true)
  (digitless : Digitless rest)

include digits_ok digitless

theorem takeWhile_digits_append : (digits ++ rest).takeWhile Text.isDigit = digits := by
  rw [List.takeWhile_append_of_pos digits_ok, digitless.takeWhile_eq, List.append_nil]

theorem dropWhile_digits_append : (digits ++ rest).dropWhile Text.isDigit = rest := by
  rw [List.dropWhile_append_of_pos digits_ok, digitless.dropWhile_eq]

end

/-- What comes after the whole part of a number does not go on with its digits. -/
theorem Fraction.digitless_append {fraction exponent rest : List Char}
    (fraction_ok : Fraction fraction) (exponent_ok : Exponent exponent) (ends : Ends rest) :
    Digitless (fraction ++ (exponent ++ rest)) := by
  have after_fraction : Digitless (exponent ++ rest) := by
    cases exponent_ok with
    | absent => exact ends.digitless
    | bare mark_ok => rcases mark_ok with rfl | rfl <;> exact digitless_cons _ rfl
    | signed mark_ok => rcases mark_ok with rfl | rfl <;> exact digitless_cons _ rfl
  cases fraction_ok with
  | absent => exact after_fraction
  | present => exact digitless_cons _ rfl

theorem Exponent.digitless_append {exponent rest : List Char}
    (exponent_ok : Exponent exponent) (ends : Ends rest) : Digitless (exponent ++ rest) :=
  Fraction.digitless_append .absent exponent_ok ends

theorem Exponent.pointless_append {exponent rest : List Char}
    (exponent_ok : Exponent exponent) (ends : Ends rest) :
    ∀ char ∈ (exponent ++ rest).head?, char ≠ '.' := by
  cases exponent_ok with
  | absent =>
      rintro _ first rfl
      exact absurd (ends _ first) (by decide)
  | bare mark_ok => rcases mark_ok with rfl | rfl <;> simp
  | signed mark_ok => rcases mark_ok with rfl | rfl <;> simp

theorem Exponent.digitless {exponent : List Char} (exponent_ok : Exponent exponent) :
    Digitless exponent := by
  have ends : Ends [] := nofun
  have digitless := exponent_ok.digitless_append ends
  rwa [List.append_nil] at digitless

theorem Exponent.mark_ne_point {mark : Char} {rest : List Char}
    (exponent_ok : Exponent (mark :: rest)) : mark ≠ '.' ∧ Text.isDigit mark = false := by
  cases exponent_ok with
  | bare mark_ok => rcases mark_ok with rfl | rfl <;> decide
  | signed mark_ok => rcases mark_ok with rfl | rfl <;> decide

/-- The sign in front of what starts with a digit is told apart from it. -/
theorem splitSign_signed {first : Char} (first_digit : Text.isDigit first = true)
    (others : List Char) (negative : Bool) :
    splitSign (if negative then '-' :: first :: others else first :: others) =
      (negative, first :: others) := by
  have not_plus : first ≠ '+' := Text.ne_of_isDigit first_digit (by decide)
  have not_minus : first ≠ '-' := Text.ne_of_isDigit first_digit (by decide)
  cases negative with
  | false => simp [splitSign, not_plus, not_minus]
  | true => rfl

end Assay.Decimal
