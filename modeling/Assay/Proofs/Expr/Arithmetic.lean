import Assay.Expr.Evaluate
import Assay.Proofs.Decimal
import Assay.Proofs.Outcome
import Assay.Proofs.Binary64.Word

/-!
# Arithmetic on words

The operators and functions on words yield the exact whole number or, where that is no word, an
overflow. A quotient is rounded down and a remainder has the sign of the divisor; no step on the
way to them leaves the words.
-/

namespace Assay

open Outcome

/-! ## Words -/

/-- Whether a whole number is a 64-bit word. -/
def IsWord (number : Int) : Prop := -2 ^ 63 ≤ number ∧ number < 2 ^ 63

instance : DecidablePred IsWord := fun _ => inferInstanceAs (Decidable (_ ∧ _))

theorem isWord_toInt (word : Int64) : IsWord word.toInt := ⟨word.le_toInt, word.toInt_lt⟩

theorem toInt_ofInt {number : Int} (word : IsWord number) : (Int64.ofInt number).toInt = number :=
  Int64.toInt_ofInt_of_le word.1 word.2

theorem bmod_of_isWord {number : Int} (word : IsWord number) : number.bmod (2 ^ 64) = number :=
  Int.bmod_eq_of_le word.1 word.2

theorem word?_of_isWord {number : Int} (word : IsWord number) :
    word? number = some (Int64.ofInt number) :=
  if_pos ⟨word.1, Int.le_of_lt_add_one word.2⟩

theorem word?_of_not_isWord {number : Int} (outside : ¬IsWord number) : word? number = none :=
  if_neg fun inside => outside ⟨inside.1, Int.lt_add_one_of_le inside.2⟩

theorem word?_eq_some_iff {number : Int} {word : Int64} :
    word? number = some word ↔ word.toInt = number := by
  constructor
  · intro found
    by_cases inside : IsWord number
    · rw [word?_of_isWord inside, Option.some_inj] at found
      rw [← found, toInt_ofInt inside]
    · rw [word?_of_not_isWord inside] at found
      cases found
  · rintro rfl
    exact word?_toInt word

/-! ## Exact outcomes -/

/-- The outcome of an operation that is exact: the word of a number or, where it is none, the
overflow. -/
structure Exact (operation : String) (number : Int) (outcome : Except EvalError Value) : Prop where
  /-- A word is the outcome. -/
  value : IsWord number → ∃ word : Int64, word.toInt = number ∧ outcome = .ok (.int word)
  /-- What is no word overflows. -/
  overflow : ¬IsWord number → outcome = .error (.overflow operation)

theorem exact_fit (operation : String) (number : Int) :
    Exact operation number (fit operation number) where
  value word := ⟨.ofInt number, toInt_ofInt word, by rw [fit, word?_of_isWord word]; rfl⟩
  overflow outside := by rw [fit, word?_of_not_isWord outside]; rfl

theorem orOverflow_ne_divisionByZero (operation : String) (result : Option Int64) :
    orOverflow operation result ≠ .error .divisionByZero := by
  cases result <;> exact nofun

/-! ## Division -/

theorem opposed_iff {x y : Int64} : opposed x y = true ↔ ¬(x.toInt < 0 ↔ y.toInt < 0) := by
  rw [opposed, bne_iff_ne, ne_eq, decide_eq_decide, Int64.lt_iff_toInt_lt, Int64.lt_iff_toInt_lt,
    Int64.toInt_zero]

/-- What a division toward zero leaves has the sign of the dividend. -/
theorem tmod_neg_iff {x y : Int} (left : x.tmod y ≠ 0) : x.tmod y < 0 ↔ x < 0 := by
  rcases lt_or_ge x 0 with negative | nonneg
  · have opposite := Int.tmod_nonneg y (show 0 ≤ -x by omega)
    rw [Int.neg_tmod] at opposite
    omega
  · have same := Int.tmod_nonneg y nonneg
    omega

/-- A quotient rounded down is the one rounded toward zero, less one where something is left that
is opposed to the divisor. -/
theorem fdiv_eq_tdiv_sub (x : Int) {y : Int} (nonzero : y ≠ 0) :
    x.fdiv y = x.tdiv y - if x.tmod y ≠ 0 ∧ ¬(x < 0 ↔ y < 0) then 1 else 0 := by
  rw [Int.fdiv_eq_tdiv]
  by_cases divides : y ∣ x
  · rw [if_pos divides, if_neg (by simp [Int.tmod_eq_zero_of_dvd divides])]
  · have left : x.tmod y ≠ 0 := mt Int.dvd_of_tmod_eq_zero divides
    rw [if_neg divides]
    rcases Int.lt_or_gt_of_ne nonzero with negative | positive
    · rw [Int.sign_eq_neg_one_of_neg negative]
      grind
    · rw [Int.sign_eq_one_of_pos positive]
      grind

/-- What a division rounded down leaves is what the one toward zero leaves, and a divisor more
where that is opposed to the divisor. -/
theorem fmod_eq_tmod_add (x : Int) {y : Int} (nonzero : y ≠ 0) :
    x.fmod y = x.tmod y + if x.tmod y ≠ 0 ∧ ¬(x.tmod y < 0 ↔ y < 0) then y else 0 := by
  have parts := Int.tmod_add_mul_tdiv x y
  rw [Int.fmod_def, fdiv_eq_tdiv_sub x nonzero]
  by_cases exact : x.tmod y = 0
  · rw [if_neg (by simp [exact]), if_neg (by simp [exact]), Int.sub_zero]
    omega
  · simp only [tmod_neg_iff exact]
    split
    · rw [Int.mul_sub]
      omega
    · rw [Int.sub_zero]
      omega

/-- The least word by minus one is the only division with a quotient that is no word. -/
theorem canDivide_iff {x y : Int64} :
    canDivide x y = true ↔ y ≠ 0 ∧ ¬(x = Int64.minValue ∧ y = -1) := by
  rw [canDivide, Bool.and_eq_true, bne_iff_ne, Bool.not_eq_true', Bool.and_eq_false_iff,
    beq_eq_false_iff_ne, beq_eq_false_iff_ne, not_and_or]

section Steps

variable {x y : Int64}

theorem toInt_ne_zero (nonzero : y ≠ 0) : y.toInt ≠ 0 := by
  rw [← Int64.toInt_zero]
  exact mt Int64.toInt_inj.mp nonzero

theorem mod_ne_zero_iff : x % y ≠ 0 ↔ x.toInt.tmod y.toInt ≠ 0 := by
  rw [ne_eq, ne_eq, ← Int64.toInt_inj, Int64.toInt_mod, Int64.toInt_zero]

theorem toInt_div_of_canDivide (divides : canDivide x y = true) :
    (x / y).toInt = x.toInt.tdiv y.toInt := by
  obtain ⟨-, inside⟩ := canDivide_iff.mp divides
  by_cases least : x = Int64.minValue
  · exact Int64.toInt_div_of_ne_right x y fun minus_one => inside ⟨least, minus_one⟩
  · exact Int64.toInt_div_of_ne_left x y least

/-- A quotient toward zero of a division that leaves something can be lessened by one. -/
theorem isWord_tdiv_sub_one (left : x.toInt.tmod y.toInt ≠ 0) :
    IsWord (x.toInt.tdiv y.toInt - 1) := by
  have nonzero : x.toInt.natAbs % y.toInt.natAbs ≠ 0 := by
    rw [← Int.natAbs_tmod]
    exact Int.natAbs_ne_zero.mpr left
  have not_one : y.toInt.natAbs ≠ 1 := fun one => nonzero (by rw [one, Nat.mod_one])
  have half : x.toInt.natAbs / y.toInt.natAbs ≤ x.toInt.natAbs / 2 := by
    rcases Nat.eq_zero_or_pos y.toInt.natAbs with zero | positive
    · rw [zero, Nat.div_zero]
      exact Nat.zero_le _
    · exact Nat.div_le_div_left (by omega) (by decide)
  have quotient_eq : (x.toInt.tdiv y.toInt).natAbs = x.toInt.natAbs / y.toInt.natAbs :=
    Int.natAbs_tdiv ..
  have word := isWord_toInt x
  rw [IsWord] at *
  omega

/-- What is left and opposed to the divisor can be added to it. -/
theorem isWord_tmod_add (opposite : ¬(x.toInt.tmod y.toInt < 0 ↔ y.toInt < 0)) :
    IsWord (x.toInt.tmod y.toInt + y.toInt) := by
  have left_word := isWord_toInt (x % y)
  have divisor_word := isWord_toInt y
  rw [Int64.toInt_mod] at left_word
  rw [IsWord] at *
  omega

/-- The steps of the division of words give what they give on whole numbers. -/
theorem division_steps (divides : canDivide x y = true) :
    (x / y).toInt = x.toInt.tdiv y.toInt ∧ (x % y).toInt = x.toInt.tmod y.toInt ∧
      (x % y ≠ 0 → (x / y - 1).toInt = (x / y).toInt - 1) ∧
      (opposed (x % y) y = true → (x % y + y).toInt = (x % y).toInt + y.toInt) := by
  refine ⟨toInt_div_of_canDivide divides, Int64.toInt_mod x y, fun left => ?_, fun opposite => ?_⟩
  · rw [Int64.toInt_sub, toInt_div_of_canDivide divides]
    exact bmod_of_isWord (isWord_tdiv_sub_one (mod_ne_zero_iff.mp left))
  · rw [opposed_iff, Int64.toInt_mod] at opposite
    rw [Int64.toInt_add, Int64.toInt_mod]
    exact bmod_of_isWord (isWord_tmod_add opposite)

/-- The quotient of words is the floor, if that is a word. -/
theorem floorQuotient?_eq (nonzero : y ≠ 0) :
    floorQuotient? x y = word? (x.toInt.fdiv y.toInt) := by
  rw [floorQuotient?]
  split
  case isTrue divides =>
    obtain ⟨quotient_eq, -, lessened_eq, -⟩ := division_steps divides
    refine (word?_eq_some_iff.mpr ?_).symm
    rw [fdiv_eq_tdiv_sub _ (toInt_ne_zero nonzero)]
    simp only [Bool.and_eq_true, bne_iff_ne, opposed_iff, mod_ne_zero_iff]
    split
    case isTrue corrected =>
      rw [lessened_eq (mod_ne_zero_iff.mpr corrected.1), quotient_eq]
    case isFalse => rw [quotient_eq, Int.sub_zero]
  case isFalse outside =>
    obtain ⟨rfl, rfl⟩ : x = Int64.minValue ∧ y = -1 := by
      by_contra inside
      exact outside (canDivide_iff.mpr ⟨nonzero, inside⟩)
    rfl

/-- The remainder of words is what the floor leaves. -/
theorem floorRemainder?_eq (nonzero : y ≠ 0) :
    floorRemainder? x y = word? (x.toInt.fmod y.toInt) := by
  refine .symm ?_
  rw [floorRemainder?]
  split
  case isTrue minus_one =>
    rw [minus_one, word?_eq_some_iff]
    exact (Int.fmod_eq_zero_of_dvd (Int.neg_dvd.mpr (Int.one_dvd _))).symm
  case isFalse other =>
    have divides : canDivide x y = true := canDivide_iff.mpr ⟨nonzero, fun ⟨_, same⟩ => other same⟩
    obtain ⟨-, left_eq, -, added_eq⟩ := division_steps divides
    rw [if_pos divides, word?_eq_some_iff, fmod_eq_tmod_add _ (toInt_ne_zero nonzero)]
    simp only [Bool.and_eq_true, bne_iff_ne, opposed_iff, mod_ne_zero_iff, left_eq]
    split
    case isTrue corrected =>
      rw [added_eq (by rw [opposed_iff, left_eq]; exact corrected.2), left_eq]
    case isFalse => rw [left_eq, Int.add_zero]

end Steps

/-! ## Sums -/

namespace Builtin

theorem numbers_words (builtin : Builtin) (words : List Int64) :
    builtin.numbers (.list (words.map .int)) = .ok (words.map .int) := by
  rw [numbers, items, bind_eq_ok]
  refine ⟨_, rfl, mapM_eq_ok.mpr ?_⟩
  rw [List.forall₂_map_left_iff, List.forall₂_map_right_iff, List.forall₂_same]
  exact fun _ _ => rfl

/-- A total is reached over words at every place on the way. -/
theorem total?_eq_some_iff {words : List Int64} {start total : Int64} :
    total? start (words.map .int) = some total ↔
      (∀ front, front <+: words → IsWord (start.toInt + (front.map Int64.toInt).sum)) ∧
        total.toInt = start.toInt + (words.map Int64.toInt).sum := by
  induction words generalizing start with
  | nil =>
      simp only [List.map_nil, List.sum_nil, Int.add_zero, List.prefix_nil, forall_eq, total?,
        Option.some_inj, Int64.toInt_inj]
      exact ⟨fun same => ⟨isWord_toInt start, same.symm⟩, fun reached => reached.2.symm⟩
  | cons word words ih =>
      simp only [List.map_cons, List.sum_cons, total?, Option.bind_eq_some_iff,
        word?_eq_some_iff, ih]
      constructor
      · rintro ⟨next, next_eq, fits, total_eq⟩
        rw [next_eq] at fits total_eq
        refine ⟨fun front stands => ?_, by rw [total_eq, Int.add_assoc]⟩
        rcases List.prefix_cons_iff.mp stands with rfl | ⟨front, rfl, inner⟩
        · simpa using isWord_toInt start
        · rw [List.map_cons, List.sum_cons, ← Int.add_assoc]
          exact fits front inner
      · rintro ⟨fits, total_eq⟩
        have next_word : IsWord (start.toInt + word.toInt) := by
          simpa using fits [word] (List.prefix_cons_iff.mpr (.inr ⟨[], rfl, List.nil_prefix⟩))
        refine ⟨_, toInt_ofInt next_word, fun front stands => ?_, ?_⟩
        · rw [toInt_ofInt next_word, Int.add_assoc]
          exact fits (word :: front) (List.prefix_cons_iff.mpr (.inr ⟨front, rfl, stands⟩))
        · rw [toInt_ofInt next_word, total_eq, Int.add_assoc]

/-- The outcome of an exact sum: the total if the sums on the way from left to right are words,
and else the overflow. -/
structure ExactSum (words : List Int64) (outcome : Except EvalError Value) : Prop where
  /-- Over words the total is reached. -/
  total : (∀ front, front <+: words → IsWord (front.map Int64.toInt).sum) →
    ∃ total : Int64, total.toInt = (words.map Int64.toInt).sum ∧ outcome = .ok (.int total)
  /-- One sum on the way that is no word overflows. -/
  overflow : ∀ front, front <+: words → ¬IsWord (front.map Int64.toInt).sum →
    outcome = .error (.overflow "sum()")

theorem sumOf_words (words : List Int64) :
    sumOf (.list (words.map .int)) = orOverflow "sum()" (total? 0 (words.map .int)) := by
  have all_int : (words.map Number.int).all Number.isInt = true := by
    rw [List.all_map, List.all_eq_true]
    exact fun _ _ => rfl
  rw [sumOf, numbers_words]
  change (if (words.map Number.int).all Number.isInt then _ else _) = _
  rw [if_pos all_int]
  cases total? 0 (words.map Number.int) <;> rfl

theorem exactSum_sumOf (words : List Int64) : ExactSum words (sumOf (.list (words.map .int))) := by
  have reached_iff (total : Int64) := @total?_eq_some_iff words 0 total
  simp only [Int64.toInt_zero, Int.zero_add] at reached_iff
  constructor
  · intro fits
    have total_eq := toInt_ofInt (fits words (List.prefix_refl words))
    refine ⟨_, total_eq, ?_⟩
    rw [sumOf_words, (reached_iff _).mpr ⟨fits, total_eq⟩]
    rfl
  · intro front stands outside
    rw [sumOf_words]
    cases reached : total? 0 (words.map .int) with
    | none => rfl
    | some total => exact absurd (((reached_iff total).mp reached).1 front stands) outside

theorem apply_abs_word (word : Int64) :
    abs.apply [.int word] = fit ("abs(" ++ toString word.toInt ++ ")") word.toInt.natAbs := rfl

end Builtin

/-! ## Operators -/

namespace BinaryOp

/-- An operation on two words as an overflow names it. -/
def shown (op : BinaryOp) (x y : Int64) : String :=
  toString x.toInt ++ " " ++ op.symbol ++ " " ++ toString y.toInt

variable {x y : Int64}

theorem apply_add_words : add.apply (.int x) (.int y) = fit (add.shown x y) (x.toInt + y.toInt) :=
  rfl

theorem apply_subtract_words :
    subtract.apply (.int x) (.int y) = fit (subtract.shown x y) (x.toInt - y.toInt) := rfl

theorem apply_multiply_words :
    multiply.apply (.int x) (.int y) = fit (multiply.shown x y) (x.toInt * y.toInt) := rfl

theorem apply_floorDivide_words : floorDivide.apply (.int x) (.int y) =
    if y = 0 then .error .divisionByZero
    else orOverflow (floorDivide.shown x y) (floorQuotient? x y) := by
  change (if (Binary64.ofWord y == 0) = true then _ else _) = _
  simp only [Binary64.ofWord_beq_zero]
  rfl

theorem apply_modulo_words : modulo.apply (.int x) (.int y) =
    if y = 0 then .error .divisionByZero
    else orOverflow (modulo.shown x y) (floorRemainder? x y) := by
  change (if (Binary64.ofWord y == 0) = true then _ else _) = _
  simp only [Binary64.ofWord_beq_zero]
  rfl

end BinaryOp

/-- Quotient and remainder of two words: none by zero, and else the floor and what it leaves. -/
structure FlooredDivision (x y : Int64) (quotient remainder : Except EvalError Value) : Prop where
  /-- By zero there is no quotient, and only by zero it fails so. -/
  quotient_zero : quotient = .error .divisionByZero ↔ y = 0
  /-- By zero there is no remainder, and only by zero it fails so. -/
  remainder_zero : remainder = .error .divisionByZero ↔ y = 0
  /-- The quotient is the floor. -/
  quotient_exact : y ≠ 0 →
    Exact (BinaryOp.floorDivide.shown x y) (x.toInt.fdiv y.toInt) quotient
  /-- The remainder is what is left of the dividend, always a word. It has the sign of the
  divisor and is less in magnitude. -/
  remainder_exact : y ≠ 0 → ∃ left : Int64, remainder = .ok (.int left) ∧
    left.toInt = x.toInt - y.toInt * x.toInt.fdiv y.toInt ∧
    (left = 0 ∨ (left.toInt < 0 ↔ y.toInt < 0)) ∧ left.toInt.natAbs < y.toInt.natAbs

/-- What a division rounded down leaves has the sign of the divisor and is less in magnitude. -/
theorem fmod_bounds (x : Int) {y : Int} (nonzero : y ≠ 0) :
    (x.fmod y = 0 ∨ (x.fmod y < 0 ↔ y < 0)) ∧ (x.fmod y).natAbs < y.natAbs := by
  have bound : (x.tmod y).natAbs < y.natAbs := by
    rw [Int.natAbs_tmod]
    exact Nat.mod_lt _ (Int.natAbs_pos.mpr nonzero)
  rw [fmod_eq_tmod_add x nonzero]
  split <;> omega

theorem flooredDivision_apply (x y : Int64) :
    FlooredDivision x y (BinaryOp.floorDivide.apply (.int x) (.int y))
      (BinaryOp.modulo.apply (.int x) (.int y)) := by
  rw [BinaryOp.apply_floorDivide_words, BinaryOp.apply_modulo_words]
  by_cases zero : y = 0
  · rw [if_pos zero, if_pos zero]
    exact ⟨⟨fun _ => zero, fun _ => rfl⟩, ⟨fun _ => zero, fun _ => rfl⟩, absurd zero, absurd zero⟩
  · obtain ⟨sign, bound⟩ := fmod_bounds x.toInt (toInt_ne_zero zero)
    have divisor_word := isWord_toInt y
    have left_word : IsWord (x.toInt.fmod y.toInt) := by
      rw [IsWord] at *
      omega
    have left_eq := toInt_ofInt left_word
    rw [if_neg zero, if_neg zero, floorQuotient?_eq zero, floorRemainder?_eq zero]
    refine ⟨iff_of_false (orOverflow_ne_divisionByZero _ _) zero,
      iff_of_false (orOverflow_ne_divisionByZero _ _) zero, fun _ => exact_fit .., fun _ =>
      ⟨.ofInt (x.toInt.fmod y.toInt), ?_, ?_, ?_, ?_⟩⟩
    · rw [word?_of_isWord left_word]
      rfl
    · rw [left_eq, Int.fmod_def]
    · rwa [← Int64.toInt_inj, left_eq, Int64.toInt_zero]
    · rwa [left_eq]

/-- The steps of a division trap and wrap nowhere: what is divided has a quotient, and what is
corrected stays a word. -/
structure SafeSteps (x y : Int64) : Prop where
  /-- A division is made exactly if it has a quotient that is a word. -/
  divides : canDivide x y = true ↔ y ≠ 0 ∧ IsWord (x.toInt.tdiv y.toInt)
  /-- The quotient is the whole one toward zero. -/
  quotient : canDivide x y = true → (x / y).toInt = x.toInt.tdiv y.toInt
  /-- The remainder is the whole one. -/
  left : canDivide x y = true → (x % y).toInt = x.toInt.tmod y.toInt
  /-- A corrected quotient is one less. -/
  lessened : canDivide x y = true → x % y ≠ 0 → opposed x y = true →
    (x / y - 1).toInt = (x / y).toInt - 1
  /-- A corrected remainder is the divisor more. -/
  added : canDivide x y = true → x % y ≠ 0 → opposed (x % y) y = true →
    (x % y + y).toInt = (x % y).toInt + y.toInt

theorem safeSteps (x y : Int64) : SafeSteps x y where
  divides := by
    constructor
    · intro divides
      rw [← toInt_div_of_canDivide divides]
      exact ⟨(canDivide_iff.mp divides).1, isWord_toInt _⟩
    · rintro ⟨nonzero, word⟩
      refine canDivide_iff.mpr ⟨nonzero, ?_⟩
      rintro ⟨rfl, rfl⟩
      exact absurd word.2 (by decide)
  quotient divides := (division_steps divides).1
  left divides := (division_steps divides).2.1
  lessened divides left _ := (division_steps divides).2.2.1 left
  added divides _ opposite := (division_steps divides).2.2.2 opposite

/-! ## Expressions -/

namespace Expr

/-- Arithmetic on words is exact or an error, and no step of it traps or wraps. -/
theorem evaluate_words (results : Namespace) {left right items : Expr} {x y : Int64}
    {words : List Int64} (left_eq : left.evaluate results = .ok (.int x))
    (right_eq : right.evaluate results = .ok (.int y))
    (items_eq : items.evaluate results = .ok (.list (words.map .int))) :
    Exact (BinaryOp.add.shown x y) (x.toInt + y.toInt) ((binary .add left right).evaluate results) ∧
    Exact (BinaryOp.subtract.shown x y) (x.toInt - y.toInt)
      ((binary .subtract left right).evaluate results) ∧
    Exact (BinaryOp.multiply.shown x y) (x.toInt * y.toInt)
      ((binary .multiply left right).evaluate results) ∧
    FlooredDivision x y ((binary .floorDivide left right).evaluate results)
      ((binary .modulo left right).evaluate results) ∧
    SafeSteps x y ∧
    Exact ("-" ++ toString x.toInt) (-x.toInt) ((unary .negate left).evaluate results) ∧
    Exact ("abs(" ++ toString x.toInt ++ ")") x.toInt.natAbs
      ((call .abs [left]).evaluate results) ∧
    (IsWord (-x.toInt) ↔ x ≠ Int64.minValue) ∧ (IsWord x.toInt.natAbs ↔ x ≠ Int64.minValue) ∧
    Builtin.ExactSum words ((call .sum [items]).evaluate results) := by
  have binary_eq (op : BinaryOp) :
      (binary op left right).evaluate results = op.apply (.int x) (.int y) := by
    rw [evaluate, left_eq, right_eq]
    rfl
  have negated_eq : (unary .negate left).evaluate results =
      fit ("-" ++ toString x.toInt) (-x.toInt) := by
    rw [evaluate, left_eq]
    rfl
  have call_eq (builtin : Builtin) {operand : Expr} {value : Value}
      (operand_eq : operand.evaluate results = .ok value) :
      (call builtin [operand]).evaluate results = builtin.apply [value] := by
    rw [evaluate, evaluateAll, operand_eq]
    rfl
  have word := isWord_toInt x
  have least_iff : x = Int64.minValue ↔ x.toInt = -2 ^ 63 := Int64.toInt_inj.symm
  simp only [binary_eq, negated_eq, call_eq .abs left_eq, call_eq .sum items_eq,
    BinaryOp.apply_add_words, BinaryOp.apply_subtract_words, BinaryOp.apply_multiply_words,
    Builtin.apply_abs_word]
  refine ⟨exact_fit .., exact_fit .., exact_fit .., flooredDivision_apply x y, safeSteps x y,
    exact_fit .., exact_fit .., ?_, ?_, Builtin.exactSum_sumOf words⟩
  · rw [ne_eq, least_iff, IsWord] at *
    omega
  · rw [ne_eq, least_iff, IsWord] at *
    omega

/-- The least word by minus one has a remainder and no quotient, and it has no opposite. A sum
overflows on the way to a total that is a word. -/
theorem evaluate_words_least :
    let results : Namespace := .ofList []
    let least : Expr := .literal (.int Int64.minValue)
    let minusOne : Expr := .literal (.int (-1))
    let items : Expr := .list [.literal (.int Int64.maxValue), .literal (.int 1), minusOne]
    least.evaluate results = .ok (.int Int64.minValue) ∧
      minusOne.evaluate results = .ok (.int (-1)) ∧
      items.evaluate results = .ok (.list ([Int64.maxValue, 1, -1].map .int)) ∧
      (binary .floorDivide least minusOne).evaluate results =
        .error (.overflow "-9223372036854775808 // -1") ∧
      (binary .modulo least minusOne).evaluate results = .ok (.int 0) ∧
      (unary .negate least).evaluate results = .error (.overflow "--9223372036854775808") ∧
      (call .sum [items]).evaluate results = .error (.overflow "sum()") := by
  intro results least minusOne items
  have least_eq : least.evaluate results = .ok (.int Int64.minValue) := rfl
  have minusOne_eq : minusOne.evaluate results = .ok (.int (-1)) := rfl
  have items_eq : items.evaluate results = .ok (.list ([Int64.maxValue, 1, -1].map .int)) := rfl
  obtain ⟨-, -, -, division, -, negated, -, -, -, total⟩ :=
    evaluate_words results least_eq minusOne_eq items_eq
  obtain ⟨left, modulo_eq, left_eq, -⟩ := division.remainder_exact (by decide)
  have left_zero : left = 0 := Int64.toInt_inj.mp (left_eq.trans (by decide))
  refine ⟨least_eq, minusOne_eq, items_eq, (division.quotient_exact (by decide)).overflow (by decide),
    by rw [modulo_eq, left_zero], negated.overflow (by decide),
    total.overflow [Int64.maxValue, 1] ⟨[-1], rfl⟩ (by decide)⟩

end Expr

end Assay
