import Assay.Proofs.Expr.Settled

/-!
# Keys stand for their expressions

A key that holds the value of an expression can be read in place of the expression: replacing the
references to the key by the expression itself changes neither the value of another expression nor
the error that it fails with. Reading a stored value interprets its texts once more, so the value
has to be settled, which it is when the literals of the expression are.
-/

namespace Assay
namespace Expr

mutual

/-- An expression with another one in place of every reference to a key. -/
def substitute : Expr → String → Expr → Expr
  | .literal value, _, _ => .literal value
  | .reference target, key, tree => if target.key = key then tree else .reference target
  | .list items, key, tree => .list (substituteAll items key tree)
  | .unary op operand, key, tree => .unary op (operand.substitute key tree)
  | .binary op left right, key, tree =>
    .binary op (left.substitute key tree) (right.substitute key tree)
  | .compare op left right, key, tree =>
    .compare op (left.substitute key tree) (right.substitute key tree)
  | .logical op left right, key, tree =>
    .logical op (left.substitute key tree) (right.substitute key tree)
  | .call builtin arguments, key, tree => .call builtin (substituteAll arguments key tree)

/-- Some expressions with another one in place of every reference to a key. -/
def substituteAll : List Expr → String → Expr → List Expr
  | [], _, _ => []
  | item :: items, key, tree => item.substitute key tree :: substituteAll items key tree

end

/-- Every reference to a key among some leaves is to the whole value at the key. -/
def ReadsWhole (key : String) (leaves : List Expr) : Prop :=
  ∀ target : Reference, .reference target ∈ leaves → target.key = key → target.path = []

theorem ReadsWhole.append {key : String} {front back : List Expr}
    (whole : ReadsWhole key (front ++ back)) : ReadsWhole key front ∧ ReadsWhole key back :=
  ⟨fun target mem => whole target (List.mem_append_left back mem),
    fun target mem => whole target (List.mem_append_right front mem)⟩

section

variable {results : Namespace} {key : String} {tree : Expr} {value : Value}

/-- A reference to the whole value at a key reads a settled value as it is. -/
theorem evaluate_reference_insert (settled : value.Settled) :
    evaluate (results.insert key value) (.reference ⟨key, []⟩) = .ok value := by
  rw [evaluate, Reference.resolve, Mapping.get?_insert_self]
  exact congrArg Except.ok settled

mutual

/-- What a key holds may be computed in its place. -/
theorem evaluate_substitute_of_settled (settled : value.Settled)
    (evaluated : tree.evaluate results = .ok value) : ∀ body : Expr, ReadsWhole key body.leaves →
    (body.substitute key tree).evaluate results = body.evaluate (results.insert key value)
  | .literal _, _ => by rw [substitute, evaluate, evaluate]
  | .reference ⟨other, path⟩, whole => by
      rw [substitute]
      split
      · rename_i same
        obtain rfl : other = key := same
        obtain rfl : path = [] := whole _ List.mem_cons_self rfl
        rw [evaluated, evaluate_reference_insert settled]
      · rename_i distinct
        rw [evaluate, evaluate, Reference.resolve, Reference.resolve,
          Mapping.get?_insert_of_ne _ _ distinct]
  | .list items, whole => by
      rw [substitute, evaluate, evaluate,
        evaluateAll_substitute_of_settled settled evaluated items whole]
  | .unary _ operand, whole => by
      rw [substitute, evaluate, evaluate,
        evaluate_substitute_of_settled settled evaluated operand whole]
  | .binary _ left right, whole => by
      rw [substitute, evaluate, evaluate,
        evaluate_substitute_of_settled settled evaluated left whole.append.1,
        evaluate_substitute_of_settled settled evaluated right whole.append.2]
  | .compare _ left right, whole => by
      rw [substitute, evaluate, evaluate,
        evaluate_substitute_of_settled settled evaluated left whole.append.1,
        evaluate_substitute_of_settled settled evaluated right whole.append.2]
  | .logical _ left right, whole => by
      rw [substitute, evaluate, evaluate,
        evaluate_substitute_of_settled settled evaluated left whole.append.1,
        evaluate_substitute_of_settled settled evaluated right whole.append.2]
  | .call _ arguments, whole => by
      rw [substitute, evaluate, evaluate,
        evaluateAll_substitute_of_settled settled evaluated arguments whole]

theorem evaluateAll_substitute_of_settled (settled : value.Settled)
    (evaluated : tree.evaluate results = .ok value) : ∀ items : List Expr,
    ReadsWhole key (leavesOfAll items) →
    evaluateAll results (substituteAll items key tree) =
      evaluateAll (results.insert key value) items
  | [], _ => by rw [substituteAll, evaluateAll, evaluateAll]
  | item :: items, whole => by
      rw [substituteAll, evaluateAll, evaluateAll,
        evaluate_substitute_of_settled settled evaluated item whole.append.1,
        evaluateAll_substitute_of_settled settled evaluated items whole.append.2]

end

/-- Where the value of an expression with settled literals is stored at a key, an expression that
reads the key as a whole has the same outcome as with the other one put in place of the key. -/
theorem evaluate_insert_eq_substitute (settled : LiteralsSettled tree.leaves) (body : Expr)
    (whole : ReadsWhole key body.leaves) (evaluated : tree.evaluate results = .ok value) :
    body.evaluate (results.insert key value) = (body.substitute key tree).evaluate results :=
  (evaluate_substitute_of_settled (settled_of_evaluate settled evaluated) evaluated body whole).symm

end

/-- The list `[n, "fast"]`, in which `n` may hold the text of a number. -/
def paceList : Expr := .list [.reference ⟨"n", []⟩, .literal (.text "fast")]

/-- The comparison `pace == [4, "fast"]`. -/
def paceCheck : Expr := .compare .equal (.reference ⟨"pace", []⟩)
  (.list [.literal (.int 4), .literal (.text "fast")])

/-- The number that `n` spells is read once for the stored list and once in place of it. -/
theorem evaluate_insert_eq_substitute_pace :
    let results : Namespace := .ofList [("n", .text " 4")]
    paceList.evaluate results = .ok (.list [.int 4, .text "fast"]) ∧
      paceCheck.evaluate (results.insert "pace" (.list [.int 4, .text "fast"])) =
        (paceCheck.substitute "pace" paceList).evaluate results ∧
      (paceCheck.substitute "pace" paceList).evaluate results = .ok (.bool true) := by
  intro results
  have evaluated : paceList.evaluate results = .ok (.list [.int 4, .text "fast"]) := by
    with_unfolding_all rfl
  have settled : LiteralsSettled paceList.leaves := by
    intro value mem
    simp only [paceList, leaves, leavesOfAll, List.cons_append, List.nil_append, List.mem_cons,
      reduceCtorEq, literal.injEq, List.not_mem_nil, or_false, false_or] at mem
    subst mem
    with_unfolding_all rfl
  have whole : ReadsWhole "pace" paceCheck.leaves := by
    intro target mem _
    simp only [paceCheck, leaves, leavesOfAll, List.cons_append, List.nil_append, List.mem_cons,
      reduceCtorEq, reference.injEq, List.not_mem_nil, or_false] at mem
    rw [mem]
  exact ⟨evaluated, evaluate_insert_eq_substitute settled paceCheck whole evaluated,
    by with_unfolding_all rfl⟩

end Expr
end Assay
