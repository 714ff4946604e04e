import Assay.Proofs.Binary64.Packing
import Assay.Proofs.Json.Literal

/-!
# Doubles as literals

Every finite double is written as the literal of a number with a fraction or an exponent, and so is
never read as a whole number. Without an exponent the digits are padded with zeros up to the point,
or down to it; in front of the point a zero then stands only on its own.
-/

namespace Assay.Json

open Binary64 (isNaN_of_isFinite isInf_of_isFinite)
open Decimal (Digits Whole Exponent digitless_cons takeWhile_digits_append dropWhile_digits_append
  splitSign_signed)

/-- The literal of a number that has a fraction or an exponent, but no sign. -/
inductive Marked : List Char → Prop where
  | point {whole digits exponent : List Char} (whole_ok : Whole whole) (digits_ok : Digits digits)
      (exponent_ok : Exponent exponent) : Marked (whole ++ '.' :: digits ++ exponent)
  | mark {mark : Char} {whole rest : List Char} (whole_ok : Whole whole)
      (exponent_ok : Exponent (mark :: rest)) : Marked (whole ++ mark :: rest)

theorem Marked.magnitude {chars : List Char} (marked : Marked chars) : Magnitude chars := by
  cases marked with
  | point whole_ok digits_ok exponent_ok => exact .mk whole_ok (.present digits_ok) exponent_ok
  | @mark mark whole rest whole_ok exponent_ok =>
      have magnitude := Magnitude.mk whole_ok .absent exponent_ok
      rwa [List.append_nil] at magnitude

/-! ## Reading doubles -/

/-- The double that a literal is read as where it is not read as a whole number. -/
def double? (literal : List Char) : Option Float :=
  (magnitude? (literalParts literal)).map fun magnitude =>
    if (literalParts literal).negative then -magnitude else magnitude

/-- A fraction or an exponent is found where the literal is taken apart. -/
theorem Marked.fraction_or_exponent {chars literal : List Char} {negative : Bool}
    (marked : Marked chars) (sign : Decimal.splitSign literal = (negative, chars)) :
    ((literalParts literal).fraction.isEmpty && (literalParts literal).exponent.isNone) =
      false := by
  cases marked with
  | @point whole digits exponent whole_ok digits_ok exponent_ok =>
      have after_whole : (whole ++ '.' :: digits ++ exponent).dropWhile Text.isDigit =
          '.' :: (digits ++ exponent) := by
        rw [List.append_assoc, List.cons_append]
        exact dropWhile_digits_append whole_ok.isDigit (digitless_cons _ rfl)
      have fraction_eq : (digits ++ exponent).takeWhile Text.isDigit = digits :=
        takeWhile_digits_append digits_ok.isDigit exponent_ok.digitless
      rw [literalParts, sign]
      simp only [after_whole, fraction_eq]
      simp [digits_ok.ne_nil]
  | @mark mark whole rest whole_ok exponent_ok =>
      obtain ⟨not_point, nondigit⟩ := exponent_ok.mark_ne_point
      have after_whole : (whole ++ mark :: rest).dropWhile Text.isDigit = mark :: rest :=
        dropWhile_digits_append whole_ok.isDigit (digitless_cons _ nondigit)
      rw [literalParts, sign]
      simp only [after_whole]
      simp [not_point]

theorem numberValue?_of_marked {chars literal : List Char} {negative : Bool}
    (marked : Marked chars) (sign : Decimal.splitSign literal = (negative, chars)) :
    numberValue? literal = (double? literal).map .float := by
  rw [numberValue?, marked.fraction_or_exponent sign, double?, Option.map_map]
  rfl

/-! ## Written doubles -/

theorem isDigit_of_mem_zeros {count : Nat} {char : Char} (mem : char ∈ Decimal.zeros count) :
    Text.isDigit char = true := by
  rw [List.eq_of_mem_replicate mem]
  rfl

theorem digits_zeros_append (count : Nat) {digits : List Char} (digits_ok : Digits digits) :
    Digits (Decimal.zeros count ++ digits) where
  ne_nil := List.append_ne_nil_of_right_ne_nil _ digits_ok.ne_nil
  isDigit char mem :=
    (List.mem_append.mp mem).elim isDigit_of_mem_zeros (digits_ok.isDigit char)

theorem digits_append_zeros (count : Nat) {digits : List Char} (digits_ok : Digits digits) :
    Digits (digits ++ Decimal.zeros count) where
  ne_nil := List.append_ne_nil_of_left_ne_nil digits_ok.ne_nil _
  isDigit char mem :=
    (List.mem_append.mp mem).elim (digits_ok.isDigit char) isDigit_of_mem_zeros

theorem whole_singleton {digit : Char} (isDigit : Text.isDigit digit = true) : Whole [digit] where
  ne_nil := List.cons_ne_nil _ _
  isDigit _ mem := List.mem_singleton.mp mem ▸ isDigit
  bare _ starts := (List.cons.inj starts).2.symm

/-- Digits of which the first is no zero make the whole part of a number. -/
theorem whole_of_head {chars : List Char} (digits_ok : Digits chars)
    (nonzero : '0' ∉ chars.head?) : Whole chars where
  toDigits := digits_ok
  bare _ starts := absurd (starts ▸ rfl) nonzero

theorem head_ne_zero {digits : List Char} (digits_ok : Whole digits) (nonzero : digits ≠ ['0']) :
    '0' ∉ digits.head? := by
  intro starts
  obtain ⟨rest, rfl⟩ := List.head?_eq_some_iff.mp starts
  exact nonzero (digits_ok.bare rest rfl ▸ rfl)

/-- Digits padded in front to more than `places`, cut so many places before their end. -/
theorem marked_padded {digits : List Char} {places : Nat} (digits_ok : Whole digits)
    (nonzero : digits ≠ ['0']) (positive : 0 < places) :
    let padded := Decimal.zeros (places + 1 - digits.length) ++ digits
    Marked (padded.take (padded.length - places) ++
      '.' :: padded.drop (padded.length - places)) := by
  intro padded
  have padded_ok : Digits padded := digits_zeros_append _ digits_ok.toDigits
  have length_eq : padded.length = (places + 1 - digits.length) + digits.length := by
    simp [padded, Decimal.zeros]
  have before_ok : Digits (padded.take (padded.length - places)) := by
    refine ⟨?_, fun char mem => padded_ok.isDigit char (List.mem_of_mem_take mem)⟩
    rw [ne_eq, ← List.length_eq_zero_iff, List.length_take]
    omega
  have after_ok : Digits (padded.drop (padded.length - places)) := by
    refine ⟨?_, fun char mem => padded_ok.isDigit char (List.mem_of_mem_drop mem)⟩
    rw [ne_eq, ← List.length_eq_zero_iff, List.length_drop]
    omega
  have whole_ok : Whole (padded.take (padded.length - places)) := by
    by_cases short : digits.length ≤ places
    · -- Only the first zero of the padding is left before the point.
      refine ⟨before_ok, fun rest starts => ?_⟩
      have single := congrArg List.length starts
      rw [List.length_take, List.length_cons] at single
      rw [← List.length_eq_zero_iff]
      omega
    · -- There is no padding.
      have padded_eq : padded = digits := by
        have none_added : places + 1 - digits.length = 0 := by omega
        simp [padded, none_added, Decimal.zeros]
      refine whole_of_head before_ok ?_
      rw [padded_eq, List.head?_take, if_neg (by omega)]
      exact head_ne_zero digits_ok nonzero
  have marked := Marked.point whole_ok after_ok .absent
  rwa [List.append_nil] at marked

theorem marked_plainChars {digits : List Char} {last : Int} (digits_ok : Whole digits)
    (zero : digits = ['0'] → last = 0) : Marked (Decimal.plainChars true digits last) := by
  rw [Decimal.plainChars]
  split
  · have whole_ok : Whole (digits ++ Decimal.zeros last.toNat) := by
      by_cases is_zero : digits = ['0']
      · rw [zero is_zero]
        simpa [Decimal.zeros] using digits_ok
      · refine whole_of_head (digits_append_zeros _ digits_ok.toDigits) ?_
        obtain ⟨first, others, rfl, _⟩ := digits_ok.toDigits.exists_eq_cons
        change '0' ∉ (first :: others).head?
        exact head_ne_zero digits_ok is_zero
    have tenths_ok : Digits ['0'] := (whole_singleton rfl).toDigits
    have marked := Marked.point whole_ok tenths_ok .absent
    rwa [List.append_nil] at marked
  · rename_i negative
    refine marked_padded digits_ok ?_ (by omega)
    intro is_zero
    have last_eq := zero is_zero
    omega

theorem marked_exponentChars {digits : List Char} (digits_ok : Digits digits)
    (leading : Int) : Marked (Decimal.exponentChars true digits leading) := by
  have exponent_ok : Exponent
      ('e' :: (if leading < 0 then ['-'] else ['+']) ++ Nat.toDigits 10 leading.natAbs) := by
    split
    · exact .signed (.inl rfl) (.inr rfl) (Decimal.digits_toDigits _)
    · exact .signed (.inl rfl) (.inl rfl) (Decimal.digits_toDigits _)
  obtain ⟨first, others, rfl, first_digit⟩ := digits_ok.exists_eq_cons
  have whole_ok := whole_singleton first_digit
  unfold Decimal.exponentChars
  rw [List.append_assoc]
  cases others with
  | nil => exact .mark whole_ok exponent_ok
  | cons second others =>
      have after_ok : Digits (second :: others) :=
        ⟨List.cons_ne_nil _ _, fun char mem => digits_ok.isDigit char (List.mem_cons_of_mem _ mem)⟩
      exact .point whole_ok after_ok exponent_ok

/-- Every decimal is written with a fraction or an exponent. -/
theorem marked_chars (number : Decimal) : Marked (numberLayout.chars number) := by
  rw [Decimal.Layout.chars]
  -- What is written is zero without an exponent, or else not zero.
  generalize made : (if number.digits = 0 then ⟨0, 0⟩ else number.strip : Decimal) = written
  have zero : Nat.toDigits 10 written.digits = ['0'] → written.exponent = 0 := by
    intro is_zero
    have value_eq := Decimal.numeral_toDigits written.digits
    rw [is_zero] at value_eq
    split at made
    · rw [← made]
    · rename_i nonzero
      exact absurd (made ▸ value_eq.symm) (Decimal.strip_digits_ne_zero nonzero)
  split
  · exact marked_plainChars (Decimal.whole_toDigits _) zero
  · exact marked_exponentChars (Decimal.digits_toDigits _) _

/-- A finite double is written with a sign, if it has one, and a fraction or an exponent. -/
theorem toList_write {number : Float} (finite : number.isFinite = true) :
    ∃ chars, Marked chars ∧ ∃ negative : Bool,
      (numberLayout.write number).toList = if negative then '-' :: chars else chars := by
  refine ⟨_, marked_chars (Decimal.shortest numberLayout.tie number),
    (Binary64.parts number).negative, ?_⟩
  rw [Decimal.Layout.write, isNaN_of_isFinite finite, isInf_of_isFinite finite]
  exact String.toList_ofList

/-- Every finite double is written as the literal of a number. -/
theorem literal_write {number : Float} (finite : number.isFinite = true) :
    Literal (numberLayout.write number).toList := by
  obtain ⟨chars, marked, negative, written⟩ := toList_write finite
  rw [written]
  cases negative with
  | false => exact .plain marked.magnitude
  | true => exact .minus marked.magnitude

/-- What a finite double is written as is read as a double and never as a whole number. -/
theorem numberValue?_write {number : Float} (finite : number.isFinite = true) :
    numberValue? (numberLayout.write number).toList =
      (double? (numberLayout.write number).toList).map .float := by
  obtain ⟨chars, marked, negative, written⟩ := toList_write finite
  obtain ⟨first, others, rfl, first_digit⟩ := marked.magnitude.exists_eq_cons
  rw [written]
  exact numberValue?_of_marked marked (splitSign_signed first_digit others negative)

end Assay.Json
