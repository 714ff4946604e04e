import Assay.Proofs.Expr.Settled
import Assay.Proofs.Expr.Walk

/-!
# References through another key

A value that is put under a key has had its texts read as what they spell. What a path leads to from
there has been read twice, and what it leads to from the value's own place only once, but a path
goes the same way through both: reading keeps lists and mappings with their places and keys, and
no path goes on from a text, a number or a truth value.
-/

namespace Assay

open Outcome

/-- The kinds of failures of an evaluation. -/
inductive EvalError.Kind where
  /-- The namespace has no value at a key. -/
  | unknownKey
  /-- There is no such element. -/
  | missingElement
  /-- A type does not fit. -/
  | typeMismatch
  /-- A divisor is zero. -/
  | divisionByZero
  /-- A whole number is out of range. -/
  | overflow
  /-- A function cannot take an argument. -/
  | invalidArgument
  deriving DecidableEq

/-- The kind of a failure. -/
def EvalError.kind : EvalError → EvalError.Kind
  | .unknownKey _ => .unknownKey
  | .missingElement _ _ => .missingElement
  | .typeMismatch _ => .typeMismatch
  | .divisionByZero => .divisionByZero
  | .overflow _ => .overflow
  | .invalidArgument _ _ => .invalidArgument

/-! ## Actions that agree -/

/-- Two actions give related values, or both fail with the same kind of failure. -/
inductive Agree {α β : Type} (related : α → β → Prop) :
    Except EvalError α → Except EvalError β → Prop
  /-- Both succeed. -/
  | ok {first : α} {second : β} (here : related first second) :
      Agree related (.ok first) (.ok second)
  /-- Both fail. -/
  | error {first second : EvalError} (same : first.kind = second.kind) :
      Agree related (.error first) (.error second)

section Agree

variable {α β γ δ : Type} {related : α → β → Prop} {others : γ → δ → Prop}
  {first : Except EvalError α} {second : Except EvalError β}

theorem Agree.bind {next : α → Except EvalError γ} {nextToo : β → Except EvalError δ}
    (agree : Agree related first second)
    (agree_next : ∀ one other, related one other → Agree others (next one) (nextToo other)) :
    Agree others (first >>= next) (second >>= nextToo) := by
  cases agree with
  | ok here => exact agree_next _ _ here
  | error same => exact .error same

theorem Agree.map {wrap : α → γ} {wrapToo : β → δ} (agree : Agree related first second)
    (kept : ∀ one other, related one other → others (wrap one) (wrapToo other)) :
    Agree others (first.map wrap) (second.map wrapToo) := by
  cases agree with
  | ok here => exact .ok (kept _ _ here)
  | error same => exact .error same

theorem Agree.mapM {step : γ → Except EvalError α} {stepToo : δ → Except EvalError β}
    {items : List γ} {itemsToo : List δ} (parts : List.Forall₂ others items itemsToo)
    (agree : ∀ one other, others one other → Agree related (step one) (stepToo other)) :
    Agree (List.Forall₂ related) (items.mapM step) (itemsToo.mapM stepToo) := by
  induction parts with
  | nil => exact .ok .nil
  | cons here _ ih =>
      rw [List.mapM_cons, List.mapM_cons]
      refine (agree _ _ here).bind fun one other are_related => ?_
      exact ih.bind fun rest restToo are_related_too => .ok (.cons are_related are_related_too)

theorem Agree.mapError_eq {second : Except EvalError α} (agree : Agree (· = ·) first second) :
    first.mapError EvalError.kind = second.mapError EvalError.kind := by
  cases agree with
  | ok here => rw [here]
  | error same => exact congrArg Except.error same

end Agree

/-! ## Ways through what has been read -/

/-- What is read is what a value spells. -/
def ReadAs (value read : Value) : Prop := value.typed = read

theorem forall₂_readAs_iff {items read : List Value} :
    List.Forall₂ ReadAs items read ↔ items.map Value.typed = read := by
  rw [← List.forall₂_eq_eq_eq, List.forall₂_map_left_iff]
  rfl

/-- Reading gives parts to no value. -/
theorem Value.parts?_typed {value : Value} (partless : value.parts? = none) :
    value.typed.parts? = none := by
  cases value with
  | list items | mapping entries => cases partless
  | text content =>
      rcases ofText_eq_or_isScalar content with kept | scalar
      · rw [typed, kept]
        rfl
      · rw [typed]
        cases read : ofText content <;> rw [read] at scalar <;> first | rfl | cases scalar
  | _ => rfl

namespace Reference

variable {reference other : Reference} {segment : Segment} {path : List Segment}

/-- No path goes on from a value without parts. -/
theorem exists_walk_cons_eq {value : Value} (partless : value.parts? = none) :
    ∃ mismatch, reference.walk (segment :: path) value = .error (.typeMismatch mismatch) := by
  cases value with
  | list items | mapping entries => cases partless
  | _ => cases segment <;> exact ⟨_, rfl⟩

/-- A path leads from a value and from what it is read as to an element and to what this is read
as. -/
theorem agree_walk (reference other : Reference) (path : List Segment) (value : Value) :
    Agree ReadAs (reference.walk path value) (other.walk path value.typed) := by
  induction path generalizing value with
  | nil => exact .ok rfl
  | cons segment path ih =>
      have visit (items : List Value) :
          Agree ReadAs ((items.mapM (reference.walk path)).map .list)
            (((items.map Value.typed).mapM (other.walk path)).map .list) := by
        have visited : Agree (List.Forall₂ ReadAs) (items.mapM (reference.walk path))
            ((items.map Value.typed).mapM (other.walk path)) := by
          refine .mapM (forall₂_readAs_iff.mpr rfl) fun one read is_read => ?_
          rw [← is_read]
          exact ih one
        refine visited.map fun found read are_read => ?_
        rw [ReadAs, Value.typed, Value.typedItems_eq_map, forall₂_readAs_iff.mp are_read]
      have onward (found : Option Value) :
          Agree ReadAs (reference.walkOn segment path found)
            (other.walkOn segment path (found.map Value.typed)) := by
        cases found with
        | none => exact .error rfl
        | some element => exact ih element
      have apart {value : Value} (partless : value.parts? = none) :
          Agree ReadAs (reference.walk (segment :: path) value)
            (other.walk (segment :: path) value.typed) := by
        obtain ⟨_, failed⟩ := exists_walk_cons_eq partless
        obtain ⟨_, failed_too⟩ := exists_walk_cons_eq (Value.parts?_typed partless)
        rw [failed, failed_too]
        exact .error rfl
      cases value with
      | list items =>
          rw [Value.typed, Value.typedItems_eq_map]
          cases segment with
          | wildcard => exact visit items
          | index place =>
              have agree := onward items[place]?
              rw [← List.getElem?_map] at agree
              exact agree
          | field name => exact .error rfl
      | mapping entries =>
          rw [Value.typed, Value.typedEntries_eq_map]
          cases segment with
          | wildcard =>
              have agree := visit entries.values
              rw [← Mapping.values_map] at agree
              exact agree
          | index place =>
              have agree := onward (entries.get? (toString place))
              rw [← Mapping.get?_map] at agree
              exact agree
          | field name =>
              have agree := onward (entries.get? name)
              rw [← Mapping.get?_map] at agree
              exact agree
      | _ => exact apart rfl

end Reference

namespace Expr

/-- A path goes to the same value from a key that holds the value of a reference as it goes to
behind the reference, or it fails in the same way there. -/
theorem evaluate_alias {results : Namespace} {target : Reference} {value : Value}
    (plain : .wildcard ∉ target.path)
    (evaluated : (Expr.reference target).evaluate results = .ok value) (key : String)
    (path : List Segment) :
    ((Expr.reference ⟨key, path⟩).evaluate (results.insert key value)).mapError EvalError.kind =
      ((Expr.reference ⟨target.key, target.path ++ path⟩).evaluate results).mapError
        EvalError.kind := by
  obtain ⟨found, resolved, rfl⟩ := map_eq_ok.mp evaluated
  rw [Reference.resolve] at resolved
  split at resolved
  · rename_i root held
    have alias_eq : Reference.resolve ⟨key, path⟩ (results.insert key found.typed) =
        Reference.walk ⟨key, path⟩ path found.typed := by
      rw [Reference.resolve, Mapping.get?_insert_self]
    have direct_eq : Reference.resolve ⟨target.key, target.path ++ path⟩ results =
        Reference.walk ⟨target.key, target.path ++ path⟩ path found := by
      rw [Reference.resolve, held]
      dsimp only
      rw [Reference.walk_append plain, Reference.walk_eq_ok_of_walk _ resolved]
      rfl
    rw [evaluate, evaluate, alias_eq, direct_eq]
    have agree := Reference.agree_walk ⟨target.key, target.path ++ path⟩ ⟨key, path⟩ path found
    -- What is found through the key has been read already, and reading it again changes nothing.
    refine (agree.map fun one read is_read => ?_).mapError_eq.symm
    rw [← is_read]
    exact (Value.settled_typed one).symm
  · cases resolved

/-- What was recorded of a run. -/
def firstRun : Value := .mapping (.ofList [("passed", .text "True"), ("speed", .text " 12 ")])

/-- Neither a text nor what it spells has elements, also under the key that is replaced. -/
theorem evaluate_alias_indexed :
    let results : Namespace := .ofList [("runs", .list [firstRun])]
    let target : Reference := ⟨"runs", [.index 0]⟩
    let path : List Segment := [.wildcard, .index 0]
    .wildcard ∉ target.path ∧
      (Expr.reference target).evaluate results = .ok firstRun.typed ∧
      ((Expr.reference ⟨"runs", path⟩).evaluate (results.insert "runs" firstRun.typed)).mapError
        EvalError.kind = .error .typeMismatch ∧
      ((Expr.reference ⟨target.key, target.path ++ path⟩).evaluate results).mapError
        EvalError.kind = .error .typeMismatch := by
  intro results target path
  have plain : .wildcard ∉ target.path := by simp [target]
  have evaluated : (Expr.reference target).evaluate results = .ok firstRun.typed := by
    with_unfolding_all rfl
  have failed : ((Expr.reference ⟨target.key, target.path ++ path⟩).evaluate results).mapError
      EvalError.kind = .error .typeMismatch := by
    with_unfolding_all rfl
  exact ⟨plain, evaluated, (evaluate_alias plain evaluated "runs" path).trans failed, failed⟩

end Expr
end Assay
