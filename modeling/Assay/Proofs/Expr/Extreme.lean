import Assay.Proofs.Expr.Arithmetic
import Assay.Proofs.Expr.Comparison

/-!
# Least and greatest words

The least and the greatest of a list are chosen by the ranks of doubles. Of words that are the same
double the first is kept, though another may be less or greater; up to `2 ^ 53` in magnitude there
are no such words, and the choice is exact.
-/

namespace Assay

open Binary64 (ofWord rank isNaN_ofWord)

namespace Builtin

/-- Keeping what stands before, from left to right, is one choice after the other. -/
theorem foldl_argAux {α : Type} (stands : α → α → Prop) [DecidableRel stands] (first : α)
    (rest : List α) : (first :: rest).foldl (List.argAux stands) none =
      some (rest.foldl (fun best item => if stands item best then item else best) first) :=
  List.foldl_hom some fun best item => (apply_ite some (stands item best) item best).symm

/-- Of words the choice is made by the ranks of their doubles. -/
theorem extreme_words (builtin : Builtin) (wanted : Ordering) (first : Int64)
    (rest : List Int64) : builtin.extreme wanted (.list ((first :: rest).map .int)) =
      .ok (.int (rest.foldl (fun best word =>
        if compare (rank (ofWord word)) (rank (ofWord best)) = wanted then word else best)
        first)) := by
  rw [extreme, numbers_words, List.map_cons]
  change Except.ok (Number.toValue _) = _
  rw [List.foldl_map, List.foldl_hom Number.int fun best word => ?_]
  · rfl
  · have compared : Binary64.compare? (ofWord word) (ofWord best) =
        some (compare (rank (ofWord word)) (rank (ofWord best))) :=
      Binary64.compare?_eq (isNaN_ofWord word) (isNaN_ofWord best)
    simp only [Number.toFloat, compared, beq_iff_eq, Option.some_inj]
    exact (apply_ite Number.int _ _ _).symm

/-- The least of words is the first one whose double has the least rank. -/
theorem extreme_lt_eq_argmin (builtin : Builtin) {words : List Int64} {least : Int64}
    (chosen : least ∈ words.argmin (rank ∘ ofWord)) :
    builtin.extreme .lt (.list (words.map .int)) = .ok (.int least) := by
  cases words with
  | nil => cases chosen
  | cons first rest =>
      rw [List.argmin, foldl_argAux, Option.mem_def, Option.some_inj] at chosen
      rw [extreme_words]
      simp only [compare_lt_iff_lt, ← chosen, Function.comp_apply]

/-- The greatest of words is the first one whose double has the greatest rank. -/
theorem extreme_gt_eq_argmax (builtin : Builtin) {words : List Int64} {greatest : Int64}
    (chosen : greatest ∈ words.argmax (rank ∘ ofWord)) :
    builtin.extreme .gt (.list (words.map .int)) = .ok (.int greatest) := by
  cases words with
  | nil => cases chosen
  | cons first rest =>
      rw [List.argmax, foldl_argAux, Option.mem_def, Option.some_inj] at chosen
      rw [extreme_words]
      simp only [compare_gt_iff_gt, ← chosen, Function.comp_apply]

end Builtin

/-! ## Expressions -/

namespace Expr

/-- The least and the greatest of words are chosen by the ranks of their doubles. Where another
word is less or greater, it is the same double, and up to `2 ^ 53` in magnitude none is. -/
theorem evaluate_extreme (results : Namespace) {items : Expr} {words : List Int64}
    (nonempty : words ≠ [])
    (items_eq : items.evaluate results = .ok (.list (words.map .int))) :
    ∃ least ∈ words.argmin (rank ∘ ofWord), ∃ greatest ∈ words.argmax (rank ∘ ofWord),
      (call .min [items]).evaluate results = .ok (.int least) ∧
      (call .max [items]).evaluate results = .ok (.int greatest) ∧
      least ∈ words ∧ greatest ∈ words ∧
      (∀ word ∈ words,
        (CompareOp.less.apply (.int word) (.int least) = .ok true →
          (ofWord word == ofWord least) = true) ∧
        (CompareOp.greater.apply (.int word) (.int greatest) = .ok true →
          (ofWord word == ofWord greatest) = true)) ∧
      ((∀ word ∈ words, word.toInt.natAbs ≤ 2 ^ 53) → ∀ word ∈ words,
        CompareOp.less.apply (.int word) (.int least) = .ok false ∧
        CompareOp.greater.apply (.int word) (.int greatest) = .ok false) := by
  have call_eq (builtin : Builtin) :
      (call builtin [items]).evaluate results = builtin.apply [.list (words.map .int)] := by
    rw [evaluate, evaluateAll, items_eq]
    rfl
  obtain ⟨least, least_chosen⟩ := Option.ne_none_iff_exists'.mp
    (mt List.argmin_eq_none.mp nonempty : words.argmin (rank ∘ ofWord) ≠ none)
  obtain ⟨greatest, greatest_chosen⟩ := Option.ne_none_iff_exists'.mp
    (mt List.argmax_eq_none.mp nonempty : words.argmax (rank ∘ ofWord) ≠ none)
  have least_mem := List.argmin_mem least_chosen
  have greatest_mem := List.argmax_mem greatest_chosen
  have least_le : ∀ word ∈ words, rank (ofWord least) ≤ rank (ofWord word) :=
    fun word mem => List.le_of_mem_argmin (f := rank ∘ ofWord) mem least_chosen
  have le_greatest : ∀ word ∈ words, rank (ofWord word) ≤ rank (ofWord greatest) :=
    fun word mem => List.le_of_mem_argmax (f := rank ∘ ofWord) mem greatest_chosen
  simp only [call_eq, CompareOp.less_words, CompareOp.greater_words, Except.ok.injEq,
    decide_eq_true_eq, decide_eq_false_iff_not, Int.not_lt,
    Binary64.beq_iff_rank_eq (isNaN_ofWord _) (isNaN_ofWord _)]
  refine ⟨least, least_chosen, greatest, greatest_chosen,
    Builtin.extreme_lt_eq_argmin .min least_chosen,
    Builtin.extreme_gt_eq_argmax .max greatest_chosen, least_mem, greatest_mem,
    fun word mem => ⟨fun less => ?_, fun greater => ?_⟩, fun small word mem => ⟨?_, ?_⟩⟩
  · exact rank_eq_of_opposed (Int.le_of_lt less) (least_le word mem)
  · exact (rank_eq_of_opposed (Int.le_of_lt greater) (le_greatest word mem)).symm
  · exact toInt_le_of_rank_le (small least least_mem) (small word mem) (least_le word mem)
  · exact toInt_le_of_rank_le (small word mem) (small greatest greatest_mem) (le_greatest word mem)

/-- At `2 ^ 53` and next to it the choice is exact. -/
theorem evaluate_extreme_edge :
    let results : Namespace := .ofList []
    let items : Expr := .list
      [.literal (.int 9007199254740991), .literal (.int (-9007199254740992)),
        .literal (.int 9007199254740992), .literal (.int (-9007199254740991))]
    let words : List Int64 :=
      [9007199254740991, -9007199254740992, 9007199254740992, -9007199254740991]
    words ≠ [] ∧ items.evaluate results = .ok (.list (words.map .int)) ∧
      (∀ word ∈ words, word.toInt.natAbs ≤ 2 ^ 53) ∧
      ∃ least greatest, (call .min [items]).evaluate results = .ok (.int least) ∧
        (call .max [items]).evaluate results = .ok (.int greatest) ∧
        ∀ word ∈ words, CompareOp.less.apply (.int word) (.int least) = .ok false ∧
          CompareOp.greater.apply (.int word) (.int greatest) = .ok false := by
  intro results items words
  have nonempty : words ≠ [] := by decide
  have items_eq : items.evaluate results = .ok (.list (words.map .int)) := rfl
  have small : ∀ word ∈ words, word.toInt.natAbs ≤ 2 ^ 53 := by simp [words]
  obtain ⟨least, -, greatest, -, min_eq, max_eq, -, -, -, exact_within⟩ :=
    evaluate_extreme results nonempty items_eq
  exact ⟨nonempty, items_eq, small, least, greatest, min_eq, max_eq, exact_within small⟩

/-- Above `2 ^ 53` the least word that is found has a lesser one beside it, and the greatest a
greater one, if that comes later in the list and is the same double. -/
theorem exists_extreme_not_exact :
    let results : Namespace := .ofList []
    let falling : Expr := .list
      [.literal (.int 9007199254740993), .literal (.int 9007199254740992)]
    let rising : Expr := .list
      [.literal (.int 9007199254740992), .literal (.int 9007199254740993)]
    (call .min [falling]).evaluate results = .ok (.int 9007199254740993) ∧
      (call .max [rising]).evaluate results = .ok (.int 9007199254740992) ∧
      CompareOp.less.apply (.int 9007199254740992) (.int 9007199254740993) = .ok true ∧
      CompareOp.greater.apply (.int 9007199254740993) (.int 9007199254740992) = .ok true := by
  refine ⟨by with_unfolding_all rfl, by with_unfolding_all rfl, rfl, rfl⟩

end Expr

end Assay
