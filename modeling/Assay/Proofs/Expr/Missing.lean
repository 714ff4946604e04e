import Assay.Proofs.Expr.Settled

/-!
# Missing keys

Only the reference to a key can fail because the namespace has no such key: neither a way through a
value nor an operator or a function fails so. The keys that are collected from an expression are
those of the references in it. When an evaluation misses a key, the key is therefore one of them.
-/

namespace Assay

open Outcome

/-- An action that does not fail for want of a key. -/
def Keyless {α : Type} (action : Except EvalError α) : Prop :=
  ∀ key, action ≠ .error (.unknownKey key)

section

variable {α β : Type} {action : Except EvalError α}

theorem keyless_ok (value : α) : Keyless (.ok value) := by simp [Keyless]

theorem keyless_error {error : EvalError} (other : ∀ key, error ≠ .unknownKey key) :
    Keyless (.error error : Except EvalError α) := by
  intro key failed
  exact other key (Except.error.inj failed)

theorem Keyless.bind {next : α → Except EvalError β} (first : Keyless action)
    (second : ∀ value, Keyless (next value)) : Keyless (action >>= next) := by
  intro key failed
  rcases bind_eq_error.mp failed with failed | ⟨value, _, failed⟩
  · exact first key failed
  · exact second value key failed

theorem Keyless.map {wrap : α → β} (keyless : Keyless action) : Keyless (action.map wrap) :=
  fun key failed => keyless key (map_eq_error.mp failed)

theorem Keyless.mapM {step : α → Except EvalError β} (keyless : ∀ item, Keyless (step item))
    (items : List α) : Keyless (items.mapM step) := by
  intro key failed
  obtain ⟨item, _, failed⟩ := exists_of_mapM_eq_error failed
  exact keyless item key failed

end

/-! ## Values and operators -/

theorem Value.keyless_expectNumber (user : String) (value : Value) :
    Keyless (value.expectNumber user) := by
  rw [expectNumber]
  split
  · exact keyless_ok _
  · exact keyless_error (by simp)

theorem Value.keyless_expectBool (user : String) (value : Value) :
    Keyless (value.expectBool user) := by
  rw [expectBool]
  split
  · exact keyless_ok _
  · exact keyless_error (by simp)

theorem keyless_orOverflow (operation : String) (result : Option Int64) :
    Keyless (orOverflow operation result) := by
  cases result with
  | some word => exact keyless_ok _
  | none => exact keyless_error (by simp)

theorem keyless_fit (operation : String) (number : Int) : Keyless (fit operation number) :=
  keyless_orOverflow operation _

theorem UnaryOp.keyless_apply (op : UnaryOp) (operand : Value) : Keyless (op.apply operand) := by
  cases op with
  | not => exact (operand.keyless_expectBool "not").map
  | negate =>
      refine (operand.keyless_expectNumber "-").bind fun number => ?_
      cases number with
      | int number => exact keyless_fit _ _
      | float number => exact keyless_ok _

theorem BinaryOp.keyless_apply (op : BinaryOp) (left right : Value) :
    Keyless (op.apply left right) := by
  refine (left.keyless_expectNumber op.symbol).bind fun first => ?_
  refine (right.keyless_expectNumber op.symbol).bind fun second => ?_
  dsimp only
  split
  · exact keyless_error (by simp)
  · split
    case h_6 =>
      split
      · exact keyless_orOverflow _ _
      · exact keyless_ok _
    case h_7 => exact keyless_ok _
    all_goals exact keyless_orOverflow _ _

theorem CompareOp.keyless_apply (op : CompareOp) (left right : Value) :
    Keyless (op.apply left right) := by
  rw [apply.eq_def]
  split
  · exact keyless_ok _
  · exact keyless_ok _
  · split
    · exact keyless_ok _
    · split
      · exact keyless_ok _
      · exact keyless_ok _
      · exact keyless_error (by simp)

/-! ## Functions -/

namespace Builtin

variable (builtin : Builtin) (value : Value)

theorem keyless_invalid {α : Type} (problem : ArgumentProblem) :
    Keyless (builtin.invalid problem : Except EvalError α) := keyless_error (by simp)

theorem keyless_items : Keyless (builtin.items value) := by
  cases value with
  | list items => exact keyless_ok items
  | _ => exact builtin.keyless_invalid _

theorem keyless_numbers : Keyless (builtin.numbers value) :=
  (builtin.keyless_items value).bind fun items => .mapM (Value.keyless_expectNumber _) items

theorem keyless_truths : Keyless (builtin.truths value) :=
  (builtin.keyless_items value).bind fun items => .mapM (Value.keyless_expectBool _) items

theorem keyless_wholeNumber (number : Float) : Keyless (builtin.wholeNumber number) := by
  rw [wholeNumber]
  split
  · split
    · exact keyless_ok _
    · exact builtin.keyless_invalid _
  · exact builtin.keyless_invalid _

theorem keyless_length : Keyless (length value) := by
  cases value with
  | list _ | mapping _ | text _ => exact keyless_fit _ _
  | _ => exact len.keyless_invalid _

theorem keyless_sumOf : Keyless (sumOf value) := by
  refine (sum.keyless_numbers value).bind fun numbers => ?_
  split
  · split
    · exact keyless_ok _
    · exact keyless_error (by simp)
  · exact keyless_ok _

theorem keyless_average : Keyless (average value) := by
  refine (avg.keyless_numbers value).bind fun numbers => ?_
  split
  · exact avg.keyless_invalid _
  · exact keyless_ok _

theorem keyless_extreme (wanted : Ordering) : Keyless (builtin.extreme wanted value) := by
  refine (builtin.keyless_numbers value).bind fun numbers => ?_
  cases numbers with
  | nil => exact builtin.keyless_invalid _
  | cons first rest => exact keyless_ok _

theorem keyless_magnitude : Keyless (magnitude value) := by
  refine (value.keyless_expectNumber "abs").bind fun number => ?_
  cases number with
  | int number => exact keyless_fit _ _
  | float number => exact keyless_ok _

theorem keyless_toInt : Keyless (toInt value) := by
  cases value with
  | int number => exact keyless_ok _
  | float number => exact int.keyless_wholeNumber _
  | text content =>
      rw [toInt]
      split
      · exact keyless_ok _
      · exact int.keyless_invalid _
  | _ => exact int.keyless_invalid _

theorem keyless_toFloat : Keyless (toFloat value) := by
  cases value with
  | int number | float number => exact keyless_ok _
  | text content =>
      rw [toFloat]
      split
      · exact keyless_ok _
      · exact float.keyless_invalid _
  | _ => exact float.keyless_invalid _

theorem keyless_roundTo (digits : Option Value) : Keyless (roundTo value digits) := by
  refine (value.keyless_expectNumber "round").bind fun number => ?_
  dsimp only
  split
  · exact round.keyless_wholeNumber _
  · split
    · exact keyless_ok _
    · exact round.keyless_invalid _
  · exact round.keyless_invalid _

theorem keyless_apply (arguments : List Value) : Keyless (builtin.apply arguments) := by
  cases arguments with
  | nil => exact builtin.keyless_invalid _
  | cons first rest =>
      cases builtin with
      | len => exact keyless_length first
      | sum => exact keyless_sumOf first
      | avg => exact keyless_average first
      | min | max => exact keyless_extreme _ first _
      | all | any => exact (keyless_truths _ first).map
      | abs => exact keyless_magnitude first
      | int => exact keyless_toInt first
      | float => exact keyless_toFloat first
      | round => exact keyless_roundTo first _

end Builtin

/-! ## References -/

/-- The way through a value misses elements, not keys. -/
theorem Reference.keyless_walk (reference : Reference) (path : List Segment) :
    ∀ value, Keyless (reference.walk path value) := by
  induction path with
  | nil => exact keyless_ok
  | cons segment path ih =>
      intro value
      rw [walk.eq_def]
      dsimp only
      split
      case h_1 | h_2 => exact (Keyless.mapM ih _).map
      case h_6 => exact keyless_error (by simp)
      -- What a single segment leads to, if anything, is walked on from.
      all_goals
        split
        · exact ih _
        · exact keyless_error (by simp)

theorem Reference.resolve_unknownKey {reference : Reference} {results : Namespace} {key : String}
    (failed : reference.resolve results = .error (.unknownKey key)) :
    key = reference.key ∧ results.get? key = none := by
  rw [resolve] at failed
  split at failed
  · exact absurd failed (reference.keyless_walk _ _ key)
  · rename_i absent
    cases failed
    exact ⟨rfl, absent⟩

namespace Expr

/-- Some leaves refer to a key. -/
def ReferTo (key : String) (leaves : List Expr) : Prop :=
  ∃ path, .reference ⟨key, path⟩ ∈ leaves

variable {key : String}

theorem referTo_append {front back : List Expr} :
    ReferTo key (front ++ back) ↔ ReferTo key front ∨ ReferTo key back := by
  simp only [ReferTo, List.mem_append, exists_or]

mutual

/-- The keys of an expression are those of the references in it. -/
theorem mem_keys_iff : ∀ tree : Expr, key ∈ tree.keys ↔ ReferTo key tree.leaves
  | .literal _ => by simp [keys, leaves, ReferTo]
  | .reference ⟨other, path⟩ => by simp [keys, leaves, ReferTo]
  | .list items => mem_keysOfAll_iff items
  | .unary _ operand => mem_keys_iff operand
  | .binary _ left right => by
      rw [keys, leaves, List.mem_append, referTo_append, mem_keys_iff left, mem_keys_iff right]
  | .compare _ left right => by
      rw [keys, leaves, List.mem_append, referTo_append, mem_keys_iff left, mem_keys_iff right]
  | .logical _ left right => by
      rw [keys, leaves, List.mem_append, referTo_append, mem_keys_iff left, mem_keys_iff right]
  | .call _ arguments => mem_keysOfAll_iff arguments

theorem mem_keysOfAll_iff : ∀ items : List Expr,
    key ∈ keysOfAll items ↔ ReferTo key (leavesOfAll items)
  | [] => by simp [keysOfAll, leavesOfAll, ReferTo]
  | item :: items => by
      rw [keysOfAll, leavesOfAll, List.mem_append, referTo_append, mem_keys_iff item,
        mem_keysOfAll_iff items]

end

variable {results : Namespace}

mutual

/-- An evaluation that misses a key has a reference to it, and the namespace has no such key. -/
theorem unknownKey_of_evaluate : ∀ tree : Expr,
    tree.evaluate results = .error (.unknownKey key) →
    ReferTo key tree.leaves ∧ results.get? key = none
  | .literal _, failed => nomatch failed
  | .reference target, failed => by
      obtain ⟨rfl, absent⟩ := Reference.resolve_unknownKey (map_eq_error.mp failed)
      exact ⟨⟨target.path, List.mem_cons_self⟩, absent⟩
  | .list items, failed => unknownKey_of_evaluateAll items (map_eq_error.mp failed)
  | .unary op operand, failed => by
      rcases bind_eq_error.mp failed with failed | ⟨_, _, failed⟩
      · exact unknownKey_of_evaluate operand failed
      · exact absurd failed (op.keyless_apply _ key)
  | .binary op left right, failed => by
      rw [leaves, referTo_append]
      rcases bind_eq_error.mp failed with failed | ⟨_, _, failed⟩
      · exact (unknownKey_of_evaluate left failed).imp_left .inl
      · rcases bind_eq_error.mp failed with failed | ⟨_, _, failed⟩
        · exact (unknownKey_of_evaluate right failed).imp_left .inr
        · exact absurd failed (op.keyless_apply _ _ key)
  | .compare op left right, failed => by
      rw [leaves, referTo_append]
      rcases bind_eq_error.mp failed with failed | ⟨_, _, failed⟩
      · exact (unknownKey_of_evaluate left failed).imp_left .inl
      · rcases bind_eq_error.mp failed with failed | ⟨_, _, failed⟩
        · exact (unknownKey_of_evaluate right failed).imp_left .inr
        · exact absurd (map_eq_error.mp failed) (op.keyless_apply _ _ key)
  | .logical op left right, failed => by
      rw [leaves, referTo_append]
      rcases bind_eq_error.mp failed with failed | ⟨_, _, failed⟩
      · exact (unknownKey_of_evaluate left failed).imp_left .inl
      · rcases bind_eq_error.mp failed with failed | ⟨_, _, failed⟩
        · exact absurd failed (Value.keyless_expectBool _ _ key)
        · split at failed
          · cases failed
          · rcases bind_eq_error.mp failed with failed | ⟨_, _, failed⟩
            · exact (unknownKey_of_evaluate right failed).imp_left .inr
            · rcases bind_eq_error.mp failed with failed | ⟨_, _, failed⟩
              · exact absurd failed (Value.keyless_expectBool _ _ key)
              · cases failed
  | .call builtin arguments, failed => by
      rcases bind_eq_error.mp failed with failed | ⟨_, _, failed⟩
      · exact unknownKey_of_evaluateAll arguments failed
      · exact absurd failed (builtin.keyless_apply _ key)

theorem unknownKey_of_evaluateAll : ∀ items : List Expr,
    evaluateAll results items = .error (.unknownKey key) →
    ReferTo key (leavesOfAll items) ∧ results.get? key = none
  | [], failed => nomatch failed
  | item :: items, failed => by
      rw [leavesOfAll, referTo_append]
      rcases bind_eq_error.mp failed with failed | ⟨_, _, failed⟩
      · exact (unknownKey_of_evaluate item failed).imp_left .inl
      · rcases bind_eq_error.mp failed with failed | ⟨_, _, failed⟩
        · exact (unknownKey_of_evaluateAll items failed).imp_left .inr
        · cases failed

end

end Expr
end Assay
