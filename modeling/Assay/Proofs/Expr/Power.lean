import Assay.Proofs.Expr.Arithmetic

/-!
# Powers of words

A power of words to a natural exponent is exact or an overflow, as long as the exponent has no more
than 32 bits. A longer exponent is always reported as an overflow, and for the bases zero, one and
minus one, whose powers never grow, this is not true.
-/

namespace Assay

/-! ## Powers that grow and powers that do not -/

/-- Powers of a base other than zero, one and minus one leave the words at the exponent 64, if not
before. -/
theorem not_isWord_pow {base : Int} (grows : 2 ≤ base.natAbs) {exponent : Nat}
    (large : 64 ≤ exponent) : ¬IsWord (base ^ exponent) := by
  have magnitude : 2 ^ 64 ≤ (base ^ exponent).natAbs := by
    rw [Int.natAbs_pow]
    calc
      2 ^ 64 ≤ 2 ^ exponent := Nat.pow_le_pow_right (by decide) large
      _ ≤ base.natAbs ^ exponent := Nat.pow_le_pow_left grows exponent
  rw [IsWord]
  omega

/-- Powers of zero, one and minus one to exponents other than zero depend on the parity of the
exponent. -/
theorem pow_eq_of_parity {base : Int} (still : base.natAbs ≤ 1) {exponent exponent' : Nat}
    (positive : exponent ≠ 0) (positive' : exponent' ≠ 0) (parity : exponent % 2 = exponent' % 2) :
    base ^ exponent = base ^ exponent' := by
  obtain rfl | rfl | rfl : base = 0 ∨ base = 1 ∨ base = -1 := by omega
  · rw [zero_pow positive, zero_pow positive']
  · rw [one_pow, one_pow]
  · rw [neg_one_pow_eq_pow_mod_two, parity, ← neg_one_pow_eq_pow_mod_two]

/-- Powers of zero, one and minus one are words. -/
theorem isWord_pow {base : Int} (still : base.natAbs ≤ 1) (exponent : Nat) :
    IsWord (base ^ exponent) := by
  have magnitude : (base ^ exponent).natAbs ≤ 1 := by
    rw [Int.natAbs_pow]
    exact pow_le_one₀ (Nat.zero_le _) still
  rw [IsWord]
  omega

/-- To an exponent within its bound a power is exact. -/
theorem wholePower?_of_le {exponent : Nat} (inside : exponent ≤ maxExponent) (base : Int) :
    wholePower? base exponent = word? (base ^ exponent) := by
  rw [wholePower?, if_neg (Nat.not_lt.mpr inside)]
  split
  case isTrue => rfl
  case isFalse large =>
    split
    case isTrue still =>
      have parity : (64 + exponent % 2) % 2 = exponent % 2 := by omega
      exact congrArg word? (pow_eq_of_parity still (by omega) (by omega) parity)
    case isFalse grows =>
      exact (word?_of_not_isWord (not_isWord_pow (Nat.lt_of_not_le grows) (by omega))).symm

/-- To an exponent out of its bound there is no power. -/
theorem wholePower?_of_lt {exponent : Nat} (outside : maxExponent < exponent) (base : Int) :
    wholePower? base exponent = none := if_pos outside

/-- A power of words to a natural exponent. -/
theorem BinaryOp.apply_power_words {x y : Int64} (natural : 0 ≤ y.toInt) :
    power.apply (.int x) (.int y) =
      orOverflow (power.shown x y) (wholePower? x.toInt y.toInt.toNat) := if_pos natural

/-! ## Expressions -/

namespace Expr

/-- A power of words to a natural exponent is exact or an overflow exactly if the exponent has no
more than 32 bits or the powers of the base grow. Any other exponent overflows in either case. -/
theorem evaluate_power (results : Namespace) {left right : Expr} {x y : Int64}
    (left_eq : left.evaluate results = .ok (.int x))
    (right_eq : right.evaluate results = .ok (.int y)) (natural : 0 ≤ y.toInt) :
    (Exact (BinaryOp.power.shown x y) (x.toInt ^ y.toInt.toNat)
        ((binary .power left right).evaluate results) ↔
      y.toInt < 2 ^ 32 ∨ 2 ≤ x.toInt.natAbs) ∧
    (2 ^ 32 ≤ y.toInt → (binary .power left right).evaluate results =
      .error (.overflow (BinaryOp.power.shown x y))) := by
  have power_eq : (binary .power left right).evaluate results =
      orOverflow (BinaryOp.power.shown x y) (wholePower? x.toInt y.toInt.toNat) := by
    rw [evaluate, left_eq, right_eq]
    exact BinaryOp.apply_power_words natural
  have bound_eq : maxExponent = 2 ^ 32 - 1 := rfl
  rcases lt_or_ge y.toInt (2 ^ 32) with inside | outside
  · have bounded : y.toInt.toNat ≤ maxExponent := by omega
    rw [power_eq, wholePower?_of_le bounded]
    exact ⟨iff_of_true (exact_fit ..) (.inl inside), fun outside => by omega⟩
  · rw [power_eq, wholePower?_of_lt (by omega)]
    refine ⟨⟨fun exact_power => ?_, fun grows => ?_⟩, fun _ => rfl⟩
    · by_contra still
      have word : IsWord (x.toInt ^ y.toInt.toNat) := isWord_pow (by omega) _
      obtain ⟨_, _, same⟩ := exact_power.value word
      cases same
    · have overflows : ¬IsWord (x.toInt ^ y.toInt.toNat) :=
        not_isWord_pow (by omega) (by omega)
      exact ⟨fun word => absurd word overflows, fun _ => rfl⟩

/-- The least word is a power, and the one after it overflows. Minus one has a power to the greatest
exponent within its bound. -/
theorem evaluate_power_ends :
    let results : Namespace := .ofList []
    let power (base exponent : Int64) : Expr :=
      .binary .power (.literal (.int base)) (.literal (.int exponent))
    (power (-2) 63).evaluate results = .ok (.int Int64.minValue) ∧
      (power (-2) 64).evaluate results = .error (.overflow "-2 ^ 64") ∧
      (power (-1) 4294967295).evaluate results = .ok (.int (-1)) := by
  intro results power
  have exact_power (base exponent : Int64) (natural : 0 ≤ exponent.toInt)
      (inside : exponent.toInt < 2 ^ 32) : Exact (BinaryOp.power.shown base exponent)
        (base.toInt ^ exponent.toInt.toNat) ((power base exponent).evaluate results) :=
    (evaluate_power results rfl rfl natural).1.mpr (.inl inside)
  obtain ⟨least, least_eq, found⟩ := (exact_power (-2) 63 (by decide) (by decide)).value (by decide)
  obtain ⟨opposite, opposite_eq, found'⟩ :=
    (exact_power (-1) 4294967295 (by decide) (by decide)).value (isWord_pow (by decide) _)
  have least_same : least = Int64.minValue := Int64.toInt_inj.mp (least_eq.trans (by decide))
  have opposite_same : opposite = -1 :=
    Int64.toInt_inj.mp (opposite_eq.trans (Odd.neg_one_pow (by decide)))
  exact ⟨least_same ▸ found, (exact_power (-2) 64 (by decide) (by decide)).overflow (by decide),
    opposite_same ▸ found'⟩

/-- One has itself as every power, and to an exponent of 33 bits an overflow is reported. -/
theorem exists_power_not_exact :
    let results : Namespace := .ofList []
    let power : Expr := .binary .power (.literal (.int 1)) (.literal (.int 4294967296))
    power.evaluate results = .error (.overflow "1 ^ 4294967296") ∧
      IsWord ((1 : Int64).toInt ^ (4294967296 : Int64).toInt.toNat) :=
  ⟨rfl, isWord_pow (by decide) _⟩

end Expr

end Assay
