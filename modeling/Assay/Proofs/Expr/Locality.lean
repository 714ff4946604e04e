import Assay.Expr.Evaluate
import Assay.Proofs.Mapping

/-!
# What an expression reads

An expression reads a namespace only at the leading keys of its references. Namespaces that agree
on these keys give it the same value or the same error.
-/

namespace Assay
namespace Expr

/-- Two namespaces hold the same at some keys. -/
def AgreeOn (keys : List String) (left right : Namespace) : Prop :=
  ∀ key ∈ keys, left.get? key = right.get? key

theorem AgreeOn.append {front back : List String} {left right : Namespace}
    (agree : AgreeOn (front ++ back) left right) :
    AgreeOn front left right ∧ AgreeOn back left right :=
  ⟨fun key mem => agree key (List.mem_append_left back mem),
    fun key mem => agree key (List.mem_append_right front mem)⟩

theorem resolve_eq_of_agreeOn (target : Reference) {left right : Namespace}
    (agree : AgreeOn [target.key] left right) : target.resolve left = target.resolve right := by
  rw [Reference.resolve, agree target.key List.mem_cons_self, ← Reference.resolve]

mutual

/-- The value of an expression depends on the keys that it refers to and on nothing else. -/
theorem evaluate_eq_of_agreeOn {left right : Namespace} : ∀ tree : Expr,
    AgreeOn tree.keys left right → tree.evaluate left = tree.evaluate right
  | .literal _, _ => rfl
  | .reference target, agree => by
      rw [evaluate, evaluate, resolve_eq_of_agreeOn target agree]
  | .list items, agree => by
      rw [evaluate, evaluate, evaluateAll_eq_of_agreeOn items agree]
  | .unary _ operand, agree => by
      rw [evaluate, evaluate, evaluate_eq_of_agreeOn operand agree]
  | .binary _ first second, agree => by
      rw [evaluate, evaluate, evaluate_eq_of_agreeOn first agree.append.1,
        evaluate_eq_of_agreeOn second agree.append.2]
  | .compare _ first second, agree => by
      rw [evaluate, evaluate, evaluate_eq_of_agreeOn first agree.append.1,
        evaluate_eq_of_agreeOn second agree.append.2]
  | .logical _ first second, agree => by
      rw [evaluate, evaluate, evaluate_eq_of_agreeOn first agree.append.1,
        evaluate_eq_of_agreeOn second agree.append.2]
  | .call _ arguments, agree => by
      rw [evaluate, evaluate, evaluateAll_eq_of_agreeOn arguments agree]

theorem evaluateAll_eq_of_agreeOn {left right : Namespace} : ∀ items : List Expr,
    AgreeOn (keysOfAll items) left right → evaluateAll left items = evaluateAll right items
  | [], _ => rfl
  | item :: items, agree => by
      rw [evaluateAll, evaluateAll, evaluate_eq_of_agreeOn item agree.append.1,
        evaluateAll_eq_of_agreeOn items agree.append.2]

end

/-- The references of an expression are the leading keys in its text. -/
theorem mem_references_iff (tree : Expr) (key : String) :
    key ∈ tree.references ↔ key ∈ tree.keys := by
  rw [references, Mapping.mem_keys_ofList, List.map_map]
  exact iff_of_eq (congrArg (key ∈ ·) (List.map_id tree.keys))

/-- An expression reads a namespace at the keys that it refers to and nowhere else. -/
theorem evaluate_reads_references (tree : Expr) {left right : Namespace}
    (agree : AgreeOn tree.references left right) : tree.evaluate left = tree.evaluate right :=
  evaluate_eq_of_agreeOn tree fun key mem => agree key ((tree.mem_references_iff key).mpr mem)

/-- Whether all runs together take longer than a limit, or else a setting. -/
def tooLong : Expr :=
  .logical .or
    (.compare .greater (.call .sum [.reference ⟨"runs", [.wildcard, .field "time"]⟩])
      (.reference ⟨"limit", []⟩))
    (.reference ⟨"strict", []⟩)

/-- Two runs within the limit. -/
def twoRuns : Namespace := .ofList
  [("limit", .int 9), ("runs", .list
    [.mapping (.ofList [("time", .int 2)]), .mapping (.ofList [("time", .int 3)])])]

/-- The missing key is found missing in either namespace, whatever they hold besides. -/
theorem evaluate_reads_references_wildcard :
    let left := twoRuns.insert "noise" (.int 1)
    let right := (twoRuns.insert "noise" (.text "1")).insert "result" .null
    AgreeOn tooLong.references left right ∧
      tooLong.evaluate left = .error (.unknownKey "strict") ∧
      tooLong.evaluate right = .error (.unknownKey "strict") := by
  intro left right
  have references_eq : tooLong.references = ["limit", "runs", "strict"] := by decide +kernel
  have agree : AgreeOn tooLong.references left right := by
    intro key mem
    rw [references_eq] at mem
    have not_noise : key ≠ "noise" := by
      rintro rfl
      simp at mem
    have not_result : key ≠ "result" := by
      rintro rfl
      simp at mem
    rw [Mapping.get?_insert_of_ne _ _ not_noise, Mapping.get?_insert_of_ne _ _ not_result,
      Mapping.get?_insert_of_ne _ _ not_noise]
  have missed : tooLong.evaluate left = .error (.unknownKey "strict") := by with_unfolding_all rfl
  exact ⟨agree, missed, (evaluate_reads_references tooLong agree).symm.trans missed⟩

end Expr
end Assay
