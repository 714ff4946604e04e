import Assay.Expr.Evaluate
import Assay.Proofs.Binary64.Word

/-!
# Comparison of numbers

Words are compared as whole numbers, and as soon as a double takes part, both sides are compared as
doubles. Any two numbers are less, equal or greater, and only one of these. Comparisons carry over
a third number, save where that is a double and the others are different words that become this
double.
-/

namespace Assay

open Binary64 (ofWord rank isNaN_ofWord)

/-! ## The order of words -/

section Order

variable {x y : Int64}

theorem CompareOp.less_words :
    CompareOp.less.apply (.int x) (.int y) = .ok (decide (x.toInt < y.toInt)) := by
  simp only [← compare_lt_iff_lt]
  rfl

theorem CompareOp.greater_words :
    CompareOp.greater.apply (.int x) (.int y) = .ok (decide (y.toInt < x.toInt)) := by
  simp only [← compare_gt_iff_gt]
  rfl

/-- Words that stand one way as whole numbers and the other way by rank are the same double. -/
theorem rank_eq_of_opposed (ordered : x.toInt ≤ y.toInt)
    (opposed : rank (ofWord y) ≤ rank (ofWord x)) : rank (ofWord x) = rank (ofWord y) :=
  le_antisymm (Binary64.rank_ofWord_mono ordered) opposed

/-- Up to `2 ^ 53` in magnitude the ranks of doubles order words as they are. -/
theorem toInt_le_of_rank_le (x_bound : x.toInt.natAbs ≤ 2 ^ 53)
    (y_bound : y.toInt.natAbs ≤ 2 ^ 53) (ranks : rank (ofWord x) ≤ rank (ofWord y)) :
    x.toInt ≤ y.toInt := by
  by_contra greater
  have same : y = x := Binary64.rank_ofWord_inj y_bound x_bound
    (rank_eq_of_opposed (Int.le_of_lt (Int.not_le.mp greater)) ranks)
  exact greater (Int.le_of_eq (congrArg Int64.toInt same.symm))

end Order

/-! ## The order of numbers -/

namespace Number

/-- How a number stands to another. -/
def order : Number → Number → Ordering
  | .int x, .int y => compare x.toInt y.toInt
  | left, right => compare (rank left.toFloat) (rank right.toFloat)

/-- Two different words that are the same double, and this double between them. -/
inductive Merged : Number → Number → Number → Prop
  | words {x y : Int64} {z : Float} (distinct : x ≠ y) (left_eq : rank (ofWord x) = rank z)
      (right_eq : rank z = rank (ofWord y)) : Merged (.int x) (.float z) (.int y)

variable {a b c : Number}

/-- Two numbers are words, or they stand as the ranks of their doubles do. -/
theorem words_or_order_eq (a b : Number) : (∃ x y, a = .int x ∧ b = .int y) ∨
    a.order b = compare (rank a.toFloat) (rank b.toFloat) := by
  cases a with
  | int x =>
      cases b with
      | int y => exact .inl ⟨x, y, rfl, rfl⟩
      | float y => exact .inr rfl
  | float x => exact .inr rfl

/-- What is not greater has no greater rank. -/
theorem rank_le_of_order (ordered : a.order b ≠ .gt) : rank a.toFloat ≤ rank b.toFloat := by
  rcases words_or_order_eq a b with ⟨x, y, rfl, rfl⟩ | ranked
  · exact Binary64.rank_ofWord_mono (compare_le_iff_le.mp ordered)
  · exact compare_le_iff_le.mp (ranked ▸ ordered)

/-- What is equal has the same rank. -/
theorem rank_eq_of_order (same : a.order b = .eq) : rank a.toFloat = rank b.toFloat := by
  rcases words_or_order_eq a b with ⟨x, y, rfl, rfl⟩ | ranked
  · rw [Int64.toInt_inj.mp (compare_eq_iff_eq.mp same)]
  · exact compare_eq_iff_eq.mp (ranked ▸ same)

/-- What is not greater than a third number is not greater, unless this number merges two words. -/
theorem order_trans (ordered : a.order b ≠ .gt) (ordered' : b.order c ≠ .gt) :
    a.order c ≠ .gt ∨ Merged a b c := by
  have ranks := (rank_le_of_order ordered).trans (rank_le_of_order ordered')
  rcases words_or_order_eq a c with ⟨x, y, rfl, rfl⟩ | ranked
  · cases b with
    | int z =>
        have words := (compare_le_iff_le.mp ordered).trans (compare_le_iff_le.mp ordered')
        exact .inl (compare_le_iff_le.mpr words)
    | float z =>
        rcases le_or_gt x.toInt y.toInt with words | opposed
        · exact .inl (compare_le_iff_le.mpr words)
        · -- The words stand the other way, so both have the rank of the double between them.
          have same := rank_eq_of_opposed (Int.le_of_lt opposed) ranks
          have left_le := compare_le_iff_le.mp ordered
          have right_le := compare_le_iff_le.mp ordered'
          refine .inr (.words ?_ (left_le.antisymm (right_le.trans same.le))
            (right_le.antisymm (same.le.trans left_le)))
          rintro rfl
          exact lt_irrefl _ opposed
  · exact .inl (ranked ▸ compare_le_iff_le.mpr ranks)

/-- Equality carries over a third number exactly if this number does not merge two words. -/
theorem order_eq_trans_iff (same : a.order b = .eq) (same' : b.order c = .eq) :
    a.order c = .eq ↔ ¬Merged a b c := by
  constructor
  · rintro words ⟨distinct, -, -⟩
    exact distinct (Int64.toInt_inj.mp (compare_eq_iff_eq.mp words))
  · intro apart
    have ranks := (rank_eq_of_order same).trans (rank_eq_of_order same')
    rcases words_or_order_eq a c with ⟨x, y, rfl, rfl⟩ | ranked
    · cases b with
      | int z =>
          have words := (compare_eq_iff_eq.mp same).trans (compare_eq_iff_eq.mp same')
          exact compare_eq_iff_eq.mpr words
      | float z =>
          by_contra distinct
          refine apart (.words ?_ (compare_eq_iff_eq.mp same) (compare_eq_iff_eq.mp same'))
          rintro rfl
          exact distinct (compare_eq_iff_eq.mpr rfl)
    · exact ranked.trans (compare_eq_iff_eq.mpr ranks)

/-- Words up to `2 ^ 53` in magnitude are not merged. -/
theorem not_merged_of_natAbs_le {x y : Int64} (x_bound : x.toInt.natAbs ≤ 2 ^ 53)
    (y_bound : y.toInt.natAbs ≤ 2 ^ 53) : ¬Merged (.int x) b (.int y) := by
  rintro ⟨distinct, left_eq, right_eq⟩
  exact distinct (Binary64.rank_ofWord_inj x_bound y_bound (left_eq.trans right_eq))

end Number

/-! ## Comparisons -/

namespace CompareOp

/-- A comparison of two numbers yields that it holds. -/
def Finds (op : CompareOp) (left right : Number) : Prop :=
  op.apply left.toValue right.toValue = .ok true

variable {a b c : Number}

/-- Numbers are compared by their order. -/
theorem apply_numbers (op : CompareOp) (a_number : a.toFloat.isNaN = false)
    (b_number : b.toFloat.isNaN = false) :
    op.apply a.toValue b.toValue = .ok (op.holds (some (a.order b))) := by
  have compared :=
    congrArg (fun ordering => (.ok (op.holds ordering) : Except EvalError Bool))
      (Binary64.compare?_eq a_number b_number)
  cases a with
  | int x =>
      cases b with
      | int y => rfl
      | float y => exact compared
  | float x =>
      cases b with
      | int y => exact compared
      | float y => exact compared

section Finds

variable (a_number : a.toFloat.isNaN = false) (b_number : b.toFloat.isNaN = false)

include a_number b_number

theorem finds_iff (op : CompareOp) : op.Finds a b ↔ op.holds (some (a.order b)) = true := by
  rw [Finds, apply_numbers op a_number b_number, Except.ok.injEq]

theorem finds_equal_iff : equal.Finds a b ↔ a.order b = .eq := by
  rw [finds_iff a_number b_number, holds, beq_iff_eq, Option.some_inj]

theorem finds_greater_iff : greater.Finds a b ↔ a.order b = .gt := by
  rw [finds_iff a_number b_number, holds, beq_iff_eq, Option.some_inj]

theorem finds_atMost_iff : atMost.Finds a b ↔ a.order b ≠ .gt := by
  rw [finds_iff a_number b_number, holds]
  cases a.order b <;> simp

/-- Of two numbers one is less, equal or greater, and only one of these. -/
theorem existsUnique_finds : ∃! op, op ∈ [less, equal, greater] ∧ op.Finds a b := by
  simp only [finds_iff a_number b_number]
  cases a.order b with
  | lt => exact ⟨less, by decide, fun op => by cases op <;> decide⟩
  | eq => exact ⟨equal, by decide, fun op => by cases op <;> decide⟩
  | gt => exact ⟨greater, by decide, fun op => by cases op <;> decide⟩

end Finds

/-- Of two numbers exactly one is found to be less, equal or greater. Over a third number the order
and the equality carry over exactly if this number is not a double between different words that are
the same double; there are no such words up to `2 ^ 53` in magnitude. -/
theorem comparisons_of_numbers (a_number : a.toFloat.isNaN = false)
    (b_number : b.toFloat.isNaN = false) (c_number : c.toFloat.isNaN = false) :
    (∃! op, op ∈ [less, equal, greater] ∧ op.Finds a b) ∧
    (atMost.Finds a b → atMost.Finds b c →
      (atMost.Finds a c ↔ ¬(Number.Merged a b c ∧ greater.Finds a c))) ∧
    (equal.Finds a b → equal.Finds b c → (equal.Finds a c ↔ ¬Number.Merged a b c)) ∧
    ((∀ x y, a = .int x → c = .int y → x.toInt.natAbs ≤ 2 ^ 53 ∧ y.toInt.natAbs ≤ 2 ^ 53) →
      ¬Number.Merged a b c) := by
  refine ⟨existsUnique_finds a_number b_number, ?_, ?_, ?_⟩
  · rw [finds_atMost_iff a_number b_number, finds_atMost_iff b_number c_number,
      finds_atMost_iff a_number c_number, finds_greater_iff a_number c_number]
    intro ordered ordered'
    have trans := Number.order_trans ordered ordered'
    tauto
  · rw [finds_equal_iff a_number b_number, finds_equal_iff b_number c_number,
      finds_equal_iff a_number c_number]
    exact Number.order_eq_trans_iff
  · intro small merged
    obtain @⟨x, y, z, distinct, left_eq, right_eq⟩ := merged
    obtain ⟨x_bound, y_bound⟩ := small x y rfl rfl
    exact Number.not_merged_of_natAbs_le x_bound y_bound (.words distinct left_eq right_eq)

/-- At `2 ^ 53` a double between words carries their order over. -/
theorem comparisons_of_numbers_edge :
    let a : Number := .int 9007199254740991
    let b : Number := .float 9007199254740992
    let c : Number := .int 9007199254740992
    a.toFloat.isNaN = false ∧ b.toFloat.isNaN = false ∧ c.toFloat.isNaN = false ∧
      atMost.Finds a b ∧ atMost.Finds b c ∧ atMost.Finds a c := by
  have a_number : (Number.int 9007199254740991).toFloat.isNaN = false := isNaN_ofWord _
  have b_number : (Number.float 9007199254740992).toFloat.isNaN = false := by
    with_unfolding_all rfl
  have c_number : (Number.int 9007199254740992).toFloat.isNaN = false := isNaN_ofWord _
  have ab : atMost.Finds (.int 9007199254740991) (.float 9007199254740992) := by
    with_unfolding_all rfl
  have bc : atMost.Finds (.float 9007199254740992) (.int 9007199254740992) := by
    with_unfolding_all rfl
  obtain ⟨-, ordered_iff, -, apart⟩ := comparisons_of_numbers a_number b_number c_number
  have small : ∀ x y : Int64, Number.int 9007199254740991 = .int x →
      Number.int 9007199254740992 = .int y →
      x.toInt.natAbs ≤ 2 ^ 53 ∧ y.toInt.natAbs ≤ 2 ^ 53 := by
    rintro _ _ ⟨⟩ ⟨⟩
    decide
  exact ⟨a_number, b_number, c_number, ab, bc,
    (ordered_iff ab bc).mpr fun merged => apart small merged.1⟩

/-- Above `2 ^ 53` two different words are equal to the double between them, and the greater of them
stands before it as well as behind it. -/
theorem exists_comparisons_not_consistent :
    let a : Number := .int 9007199254740993
    let b : Number := .float 9007199254740992
    let c : Number := .int 9007199254740992
    b.toFloat.isNaN = false ∧
      atMost.Finds a b ∧ atMost.Finds b c ∧ ¬atMost.Finds a c ∧
      equal.Finds a b ∧ equal.Finds b c ∧ ¬equal.Finds a c := by
  refine ⟨by with_unfolding_all rfl, by with_unfolding_all rfl, by with_unfolding_all rfl, nofun,
    by with_unfolding_all rfl, by with_unfolding_all rfl, nofun⟩

end CompareOp
end Assay
