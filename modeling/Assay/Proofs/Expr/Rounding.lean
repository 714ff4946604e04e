import Assay.Proofs.Binary64.Whole
import Assay.Proofs.Expr.Arithmetic

/-!
# Rounding of words

The function `int` leaves a word as it is. The function `round` yields the whole number that the
double of the word is: the word itself if it is a multiple of the unit in which a double keeps it,
and else the nearest such multiple. For the greatest words this is no word any more, and there is no
value at all.
-/

namespace Assay

open Binary64 (ofWord unitOf Nearest)

namespace Builtin

/-- The double of a word is rounded already. -/
theorem apply_round_word (word : Int64) :
    round.apply [.int word] = round.wholeNumber (ofWord word) := by
  change round.wholeNumber (Binary64.roundEven (ofWord word)) = _
  rw [Binary64.roundEven_ofWord]

/-- The double of a word is taken back as a word, if it is one. -/
theorem wholeNumber_ofWord (builtin : Builtin) {word : Int64}
    (inside : word.toInt < 2 ^ 63 - 512) : ∃ whole : Int64,
      whole.toInt = Binary64.toInt (ofWord word) ∧
        builtin.wholeNumber (ofWord word) = .ok (.int whole) := by
  have is_word : IsWord (Binary64.toInt (ofWord word)) := Binary64.toInt_ofWord_bounds inside
  refine ⟨_, toInt_ofInt is_word, ?_⟩
  rw [wholeNumber, if_pos (Binary64.isFinite_ofWord word), word?_of_isWord is_word]

/-- The double of the 512 greatest words is no word. -/
theorem wholeNumber_ofWord_greatest (builtin : Builtin) {word : Int64}
    (outside : 2 ^ 63 - 512 ≤ word.toInt) : builtin.wholeNumber (ofWord word) =
      .error (.invalidArgument builtin (.outsideInt "9223372036854776000")) := by
  obtain ⟨whole_eq, double_eq⟩ := Binary64.toInt_ofWord_greatest outside
  have not_word : ¬IsWord (Binary64.toInt (ofWord word)) := by
    rw [whole_eq]
    decide
  have written : Decimal.positional.write (ofWord word) = "9223372036854776000" := by
    rw [double_eq]
    decide +kernel
  rw [wholeNumber, if_pos (Binary64.isFinite_ofWord word), word?_of_not_isWord not_word, written]
  rfl

end Builtin

/-! ## Expressions -/

namespace Expr

/-- A word is left as it is by `int`. By `round` it is taken to the nearest multiple of the unit in
which a double keeps it, or there is no value if this is no word; it is left as it is exactly if it
is such a multiple, as all words up to `2 ^ 53` in magnitude are. -/
theorem evaluate_round_word (results : Namespace) {operand : Expr} {word : Int64}
    (operand_eq : operand.evaluate results = .ok (.int word)) :
    (call .int [operand]).evaluate results = .ok (.int word) ∧
    (word.toInt < 2 ^ 63 - 512 → ∃ rounded : Int64,
      (call .round [operand]).evaluate results = .ok (.int rounded) ∧
        Nearest (unitOf word.toInt) word.toInt rounded.toInt) ∧
    (2 ^ 63 - 512 ≤ word.toInt → (call .round [operand]).evaluate results =
      .error (.invalidArgument .round (.outsideInt "9223372036854776000"))) ∧
    ((call .round [operand]).evaluate results = .ok (.int word) ↔
      (unitOf word.toInt : Int) ∣ word.toInt) ∧
    (word.toInt.natAbs ≤ 2 ^ 53 → (unitOf word.toInt : Int) ∣ word.toInt) := by
  have call_eq (builtin : Builtin) :
      (call builtin [operand]).evaluate results = builtin.apply [.int word] := by
    rw [evaluate, evaluateAll, operand_eq]
    rfl
  have near := Binary64.nearest_toInt_ofWord word
  rw [call_eq .int, call_eq .round, Builtin.apply_round_word]
  refine ⟨rfl, fun inside => ?_, Builtin.wholeNumber_ofWord_greatest .round, ?_,
    Binary64.unitOf_dvd⟩
  · obtain ⟨whole, whole_eq, found⟩ := Builtin.wholeNumber_ofWord .round inside
    exact ⟨whole, found, whole_eq ▸ near⟩
  · have unit_pos : 0 < unitOf word.toInt := Nat.two_pow_pos _
    rw [← near.eq_iff unit_pos]
    rcases lt_or_ge word.toInt (2 ^ 63 - 512) with inside | outside
    · obtain ⟨whole, whole_eq, found⟩ := Builtin.wholeNumber_ofWord .round inside
      rw [found, ← whole_eq, Except.ok.injEq, Value.int.injEq, Int64.toInt_inj]
    · have whole_eq := (Binary64.toInt_ofWord_greatest outside).1
      have greatest := word.toInt_lt
      rw [Builtin.wholeNumber_ofWord_greatest .round outside]
      exact iff_of_false nofun (by omega)

/-- At `2 ^ 53` a word is left as it is. Halfway between two multiples of two it goes to the
multiple of four. -/
theorem evaluate_round_word_edge :
    let results : Namespace := .ofList []
    let edge : Expr := .literal (.int (-9007199254740992))
    let half : Expr := .literal (.int 9007199254740995)
    edge.evaluate results = .ok (.int (-9007199254740992)) ∧
      (call .int [edge]).evaluate results = .ok (.int (-9007199254740992)) ∧
      (call .round [edge]).evaluate results = .ok (.int (-9007199254740992)) ∧
      half.evaluate results = .ok (.int 9007199254740995) ∧
      (call .round [half]).evaluate results = .ok (.int 9007199254740996) := by
  intro results edge half
  have edge_eq : edge.evaluate results = .ok (.int (-9007199254740992)) := rfl
  have half_eq : half.evaluate results = .ok (.int 9007199254740995) := rfl
  obtain ⟨kept, -, -, left_iff, left⟩ := evaluate_round_word results edge_eq
  obtain ⟨-, inside, -⟩ := evaluate_round_word results half_eq
  obtain ⟨rounded, found, multiple, close, even⟩ := inside (by decide)
  have unit_eq : unitOf (9007199254740995 : Int64).toInt = 2 := by decide
  have half_toInt : (9007199254740995 : Int64).toInt = 9007199254740995 := by decide
  rw [unit_eq] at multiple
  rw [unit_eq, half_toInt] at close even
  have rounded_eq : rounded = 9007199254740996 :=
    Int64.toInt_inj.mp (show rounded.toInt = 9007199254740996 by omega)
  exact ⟨edge_eq, kept, left_iff.mpr (left (by decide)), half_eq, rounded_eq ▸ found⟩

/-- Next to `2 ^ 53` a word is rounded to another one, and the greatest word is not rounded at
all. -/
theorem exists_round_not_identity :
    let results : Namespace := .ofList []
    let next : Expr := .literal (.int 9007199254740993)
    let greatest : Expr := .literal (.int Int64.maxValue)
    (call .round [next]).evaluate results = .ok (.int 9007199254740992) ∧
      (call .int [next]).evaluate results = .ok (.int 9007199254740993) ∧
      (call .round [greatest]).evaluate results =
        .error (.invalidArgument .round (.outsideInt "9223372036854776000")) ∧
      (call .int [greatest]).evaluate results = .ok (.int Int64.maxValue) := by
  have inside : (9007199254740993 : Int64).toInt < 2 ^ 63 - 512 := by decide
  obtain ⟨whole, whole_eq, found⟩ := Builtin.wholeNumber_ofWord .round inside
  have double_eq : Binary64.toInt (ofWord 9007199254740993) = 9007199254740992 := by decide +kernel
  have whole_same : whole = 9007199254740992 := Int64.toInt_inj.mp (whole_eq.trans double_eq)
  refine ⟨?_, rfl, ?_, rfl⟩
  · exact (Builtin.apply_round_word 9007199254740993).trans (whole_same ▸ found)
  · exact (Builtin.apply_round_word Int64.maxValue).trans
      (Builtin.wholeNumber_ofWord_greatest .round (by decide))

end Expr
end Assay
