import Assay.Proofs.Decimal.Overflow
import Assay.Value.Typed

/-!
# Texts that spell numbers

Every numeral has the characters of one and at least one digit. A text that spells a double is
therefore a numeral behind its sign, blanks around it aside, and not the word for an infinity. The
double is infinite exactly if the numeral overflows, which no word does.
-/

namespace Assay

namespace Binary64

open Float.Model (UnpackedFloat Format)
open Float.Model.UnpackedFloat

/-- A sign keeps a double finite. -/
theorem isFinite_neg (number : Float) : (-number).isFinite = number.isFinite := by
  change (Float.Model.pack number.toModel.unpack.neg).unpack.isFinite =
    number.toModel.unpack.isFinite
  cases unpacked : number.toModel.unpack with
  | notANumber => rfl
  | infinity sign => cases sign <;> rfl
  | zero sign => cases sign <;> rfl
  | finite sign significand exponent positive =>
      exact isFinite_unpack_pack positive (exponent_le_of_unpack positive unpacked)

end Binary64

namespace Decimal

/-! ## Characters of numerals -/

/-- The characters that stand in numerals. -/
def IsNumeric (char : Char) : Prop :=
  Text.isDigit char = true ∨ char = '.' ∨ char = 'e' ∨ char = 'E' ∨ char = '+' ∨ char = '-'

/-- Characters of numerals with a digit among them. -/
@[mk_iff numeric_iff]
structure Numeric (chars : List Char) : Prop where
  exists_isDigit : ∃ char ∈ chars, Text.isDigit char = true
  isNumeric : ∀ char ∈ chars, IsNumeric char

section

variable {chars : List Char} {number : Decimal}

theorem IsNumeric.visible {char : Char} (numeric : IsNumeric char) :
    Text.isBlank char = false := by
  rcases numeric with digit | rfl | rfl | rfl | rfl | rfl
  · exact Text.isBlank_of_isDigit digit
  all_goals rfl

theorem isNumeric_of_isDigit {digits : List Char}
    (isDigit : ∀ char ∈ digits, Text.isDigit char = true) : ∀ char ∈ digits, IsNumeric char :=
  fun char mem => .inl (isDigit char mem)

/-- Digits are what the readers of whole numbers and of exponents do not refuse. -/
theorem digits_iff : Digits chars ↔ ¬(chars.isEmpty || !chars.all Text.isDigit) = true := by
  rw [Bool.or_eq_true, not_or, Bool.not_eq_true', Bool.not_eq_false, List.all_eq_true,
    List.isEmpty_iff]
  exact ⟨fun digits => ⟨digits.ne_nil, digits.isDigit⟩, fun accepted => ⟨accepted.1, accepted.2⟩⟩

theorem Digits.numeric (digits : Digits chars) : Numeric chars := by
  obtain ⟨first, mem⟩ := List.exists_mem_of_ne_nil chars digits.ne_nil
  exact ⟨⟨first, mem, digits.isDigit first mem⟩, isNumeric_of_isDigit digits.isDigit⟩

theorem isNumeric_of_mark {mark : Char} (mark_ok : mark = 'e' ∨ mark = 'E') : IsNumeric mark :=
  .inr (.inr (mark_ok.imp_right .inl))

theorem spellsNumber_iff {text : String} : spellsNumber text = true ↔ Numeric text.toList := by
  rw [numeric_iff]
  simp [spellsNumber, IsNumeric, or_assoc]

/-- A sign is numeric, but no digit. -/
theorem numeric_splitSign_iff : Numeric (splitSign chars).2 ↔ Numeric chars := by
  have numeric_minus : IsNumeric '-' := by simp [IsNumeric]
  have numeric_plus : IsNumeric '+' := by simp [IsNumeric]
  have signed {sign : Char} (rest : List Char) (numeric : IsNumeric sign)
      (nondigit : Text.isDigit sign = false) : Numeric rest ↔ Numeric (sign :: rest) := by
    refine ⟨fun whole => ⟨?_, List.forall_mem_cons.mpr ⟨numeric, whole.isNumeric⟩⟩,
      fun whole => ⟨?_, (List.forall_mem_cons.mp whole.isNumeric).2⟩⟩
    · simpa [nondigit] using whole.exists_isDigit
    · simpa [nondigit] using whole.exists_isDigit
  fun_cases splitSign chars with
  | case1 rest => exact signed rest numeric_minus rfl
  | case2 rest => exact signed rest numeric_plus rfl
  | case3 => rfl

theorem isNumeric_of_readExponent? {exponent : Int} (read : readExponent? chars = some exponent) :
    ∀ char ∈ chars, IsNumeric char := by
  cases chars with
  | nil => nofun
  | cons mark rest =>
      rw [readExponent?] at read
      split at read
      case isFalse => cases read
      case isTrue mark_ok =>
        split at read
        rename_i negative digits split_eq
        split at read
        case isTrue => cases read
        case isFalse accepted =>
          have digits_numeric : Numeric digits := (digits_iff.mpr accepted).numeric
          have rest_numeric : Numeric rest := numeric_splitSign_iff.mp (by rwa [split_eq])
          exact List.forall_mem_cons.mpr ⟨isNumeric_of_mark mark_ok, rest_numeric.isNumeric⟩

/-- A numeral has digits in front of the point or behind it, and an exponent at its end. -/
theorem exists_of_read? (read : read? chars = some number) :
    ∃ whole fraction tail exponent, Digits (whole ++ fraction) ∧
      readExponent? tail = some exponent ∧
      (chars = whole ++ '.' :: (fraction ++ tail) ∨ fraction = [] ∧ chars = whole ++ tail) := by
  have parted (chars : List Char) :
      chars.takeWhile Text.isDigit ++ chars.dropWhile Text.isDigit = chars :=
    List.takeWhile_append_dropWhile
  have digits (chars : List Char) :
      ∀ char ∈ chars.takeWhile Text.isDigit, Text.isDigit char = true :=
    fun _ => List.mem_takeWhile_imp
  have whole_eq := parted chars
  rw [read?] at read
  dsimp only at read
  split at read
  case h_1 rest after_eq =>
    split at read
    case isTrue => cases read
    case isFalse nonempty =>
      obtain ⟨exponent, tail_read, rfl⟩ := Option.map_eq_some_iff.mp read
      refine ⟨_, _, _, exponent, ⟨?_, List.forall_mem_append.mpr ⟨digits chars, digits rest⟩⟩,
        tail_read, .inl ?_⟩
      · simpa using nonempty
      · rw [parted rest, ← after_eq, whole_eq]
  case h_2 =>
    split at read
    case isTrue => cases read
    case isFalse nonempty =>
      obtain ⟨exponent, tail_read, rfl⟩ := Option.map_eq_some_iff.mp read
      refine ⟨_, [], _, exponent, ⟨?_, ?_⟩, tail_read, .inr ⟨rfl, whole_eq.symm⟩⟩
      · simpa using nonempty
      · rw [List.append_nil]
        exact digits chars

theorem numeric_of_read? (read : read? chars = some number) : Numeric chars := by
  obtain ⟨whole, fraction, tail, exponent, digits_ok, tail_read, chars_eq⟩ := exists_of_read? read
  obtain ⟨⟨first, first_mem, isDigit⟩, numeric⟩ := digits_ok.numeric
  have tail_numeric := isNumeric_of_readExponent? tail_read
  constructor
  · refine ⟨first, ?_, isDigit⟩
    rcases chars_eq with rfl | ⟨rfl, rfl⟩
    · rcases List.mem_append.mp first_mem with mem | mem <;> simp [mem]
    · rw [List.append_nil] at first_mem
      exact List.mem_append_left _ first_mem
  · rw [List.forall_mem_append] at numeric
    rcases chars_eq with rfl | ⟨rfl, rfl⟩
    · simp only [List.forall_mem_append, List.forall_mem_cons]
      exact ⟨numeric.1, .inr (.inl rfl), numeric.2, tail_numeric⟩
    · exact List.forall_mem_append.mpr ⟨numeric.1, tail_numeric⟩

/-- Numeric characters name neither an infinity nor NaN. -/
theorem readMagnitude?_of_numeric (numeric : Numeric chars) :
    readMagnitude? chars = (read? chars).map toFloat := by
  cases chars with
  | nil => rfl
  | cons first others =>
      rcases numeric.isNumeric first List.mem_cons_self with digit | rfl | rfl | rfl | rfl | rfl
      · exact readMagnitude?_eq digit others
      all_goals rfl

/-! ## Signed numerals -/

/-- A numeric text is a double if it is a numeral behind its sign. -/
theorem readFloat?_of_numeric {text : String} (numeric : Numeric text.toList) :
    readFloat? text = (read? (splitSign text.toList).2).map fun number =>
      if (splitSign text.toList).1 then -number.toFloat else number.toFloat := by
  rw [readFloat?]
  simp only [readMagnitude?_of_numeric (numeric_splitSign_iff.mpr numeric), Option.map_map]
  rfl

/-- Digits alone are the whole number that they spell. -/
theorem read?_of_digits {digits : List Char} (digits_ok : Digits digits) :
    read? digits = some ⟨Text.numeral digits, 0⟩ := by
  have nonempty : digits.isEmpty = false := List.isEmpty_eq_false_iff.mpr digits_ok.ne_nil
  have taken := List.takeWhile_eq_self_iff.mpr digits_ok.isDigit
  have dropped := List.dropWhile_eq_nil_iff.mpr digits_ok.isDigit
  rw [read?, taken, dropped]
  simp [nonempty, readExponent?]

/-- A numeral that is a word does not overflow. -/
theorem lt_overflow_of_readWord? {text : String} {word : Int64}
    (word_read : readWord? text = some word)
    (read : read? (splitSign text.toList).2 = some number) :
    number.value < Binary64.overflow := by
  obtain ⟨whole, whole_read, fits⟩ := Option.bind_eq_some_iff.mp word_read
  rw [readInt?] at whole_read
  split at whole_read
  rename_i negative digits split_eq
  rw [split_eq] at read
  split at whole_read
  case isTrue => cases whole_read
  case isFalse accepted =>
    rw [read?_of_digits (digits_iff.mpr accepted)] at read
    cases read
    have magnitude_eq : whole.natAbs = Text.numeral digits := by
      rw [← Option.some.inj whole_read]
      split <;> omega
    rw [word?] at fits
    split at fits
    case isFalse => cases fits
    case isTrue inside =>
      have least_eq : Int64.minValue.toInt = -2 ^ 63 := rfl
      have greatest_eq : Int64.maxValue.toInt = 2 ^ 63 - 1 := rfl
      have bound : Text.numeral digits < 10 ^ 19 := by omega
      exact Binary64.lt_overflow_of_lt_ten_pow bound (by simp)

/-! ## Overflow -/

/-- A numeral overflows if no finite double is nearest to it. -/
def Overflows (chars : List Char) : Prop :=
  ∃ number, read? chars = some number ∧ Binary64.overflow ≤ number.value

end

end Decimal

namespace Value

open Decimal (Overflows)

/-- A text overflows if it is a numeral that does, a sign and blanks around it aside. -/
def TextOverflows (content : String) : Prop :=
  Overflows (Decimal.splitSign (Text.trimChars content.toList)).2

section

variable {content : String} {number : Float}

/-- A text that spells a double is the numeral of this, or of its negative. -/
theorem exists_of_ofText_eq_float (spelled : ofText content = .float number) :
    ∃ decimal, Decimal.read? (Decimal.splitSign (Text.trimChars content.toList)).2 = some decimal ∧
      (number = decimal.toFloat ∨ number = -decimal.toFloat) := by
  rw [ofText] at spelled
  split at spelled
  · cases spelled
  · split at spelled
    case isTrue spells =>
      have read_eq := Decimal.readFloat?_of_numeric (Decimal.spellsNumber_iff.mp spells)
      rw [Text.trim, String.toList_ofList] at read_eq
      split at spelled
      case h_1 found read =>
        cases spelled
        rw [Text.trim, read_eq] at read
        obtain ⟨decimal, decimal_read, rfl⟩ := Option.map_eq_some_iff.mp read
        refine ⟨decimal, decimal_read, ?_⟩
        split
        · exact .inr rfl
        · exact .inl rfl
      case h_2 => cases spelled
    case isFalse =>
      split at spelled
      · cases spelled
      · split at spelled <;> cases spelled

/-- A text that overflows spells a double that is not finite. -/
theorem exists_ofText_eq_float (overflows : TextOverflows content) :
    ∃ number : Float, ofText content = .float number ∧ number.isFinite = false := by
  obtain ⟨decimal, read, high⟩ := overflows
  have infinite : decimal.toFloat.isFinite = false := by
    rw [Bool.eq_false_iff, ne_eq, Decimal.isFinite_toFloat_iff]
    exact not_lt.mpr high
  have infinite_signed (negative : Bool) :
      (if negative then -decimal.toFloat else decimal.toFloat).isFinite = false := by
    cases negative with
    | true => exact (Binary64.isFinite_neg _).trans infinite
    | false => exact infinite
  have numeric : Decimal.Numeric (Text.trim content).toList := by
    rw [Text.trim, String.toList_ofList]
    exact Decimal.numeric_splitSign_iff.mp (Decimal.numeric_of_read? read)
  have no_word : Decimal.readWord? (Text.trim content) = none := by
    refine Option.eq_none_iff_forall_ne_some.mpr fun word word_read => ?_
    refine not_le.mpr (Decimal.lt_overflow_of_readWord? word_read ?_) high
    rw [Text.trim, String.toList_ofList]
    exact read
  have float_eq := Decimal.readFloat?_of_numeric numeric
  rw [Text.trim, String.toList_ofList, read, Option.map_some, ← Text.trim] at float_eq
  refine ⟨_, ?_, infinite_signed (Decimal.splitSign (Text.trimChars content.toList)).1⟩
  rw [ofText, no_word, Decimal.spellsNumber_iff.mpr numeric, float_eq]
  rfl

/-- A text spells no infinite double exactly if it does not overflow. -/
theorem isFinite_ofText_iff :
    (∀ number, ofText content = .float number → number.isFinite = true) ↔
      ¬TextOverflows content := by
  constructor
  · intro finite overflows
    obtain ⟨number, spelled, infinite⟩ := exists_ofText_eq_float overflows
    rw [finite number spelled] at infinite
    cases infinite
  · intro fits number spelled
    obtain ⟨decimal, read, number_eq⟩ := exists_of_ofText_eq_float spelled
    have finite : decimal.toFloat.isFinite = true :=
      decimal.isFinite_toFloat_iff.mpr (not_le.mp fun high => fits ⟨decimal, read, high⟩)
    rcases number_eq with rfl | rfl
    · exact finite
    · rw [Binary64.isFinite_neg, finite]

/-- No text spells NaN. -/
theorem isNaN_of_ofText (spelled : ofText content = .float number) : number.isNaN = false := by
  obtain ⟨decimal, -, rfl | rfl⟩ := exists_of_ofText_eq_float spelled
  · exact decimal.isNaN_toFloat
  · rw [Binary64.isNaN_neg, decimal.isNaN_toFloat]

end

end Value

end Assay
