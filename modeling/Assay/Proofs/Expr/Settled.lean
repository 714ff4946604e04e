import Assay.Expr.Evaluate
import Assay.Proofs.Outcome

/-!
# Settled values

A value is settled if reading its texts as what they spell changes nothing. What has been read in
that way is settled, and the operators and functions yield numbers and truth values. An expression
whose own literals are settled therefore has a settled value, against any namespace.
-/

namespace Assay

open Outcome

namespace Value

/-- Reading the texts in a value as what they spell gives the value itself. -/
def Settled (value : Value) : Prop := value.typed = value

/-- Whether a value is a number or a truth value. -/
def isScalar : Value → Bool
  | .bool _ | .int _ | .float _ => true
  | _ => false

theorem settled_of_isScalar {value : Value} (scalar : value.isScalar = true) : value.Settled := by
  cases value <;> first | rfl | cases scalar

theorem ofText_eq_or_isScalar (content : String) :
    ofText content = .text content ∨ (ofText content).isScalar = true := by
  rw [ofText]
  split
  · exact .inr rfl
  · split
    · split
      · exact .inr rfl
      · exact .inl rfl
    · split
      · exact .inr rfl
      · split
        · exact .inr rfl
        · exact .inl rfl

theorem settled_ofText (content : String) : (ofText content).Settled := by
  rcases ofText_eq_or_isScalar content with kept | scalar
  · rw [Settled, kept, typed, kept]
  · exact settled_of_isScalar scalar

theorem settled_list {items : List Value} (settled : ∀ item ∈ items, item.Settled) :
    (Value.list items).Settled := by
  have same : items.map typed = items := (List.map_congr_left settled).trans (List.map_id items)
  rw [Settled, typed, typedItems_eq_map, same]

mutual

/-- What has been read as what it spells is settled. -/
theorem settled_typed : ∀ value : Value, value.typed.Settled
  | .text content => settled_ofText content
  | .list items => settled_list (settled_typedItems items)
  | .mapping entries => congrArg Value.mapping (typedEntries_typedEntries entries)
  | .null | .bool _ | .int _ | .float _ => rfl

theorem settled_typedItems : ∀ items : List Value, ∀ item ∈ typedItems items, item.Settled
  | [], _, mem => nomatch mem
  | item :: items, other, mem => by
      rcases List.mem_cons.mp mem with rfl | mem
      · exact settled_typed item
      · exact settled_typedItems items other mem

theorem typedEntries_typedEntries : ∀ entries : Mapping Value,
    typedEntries (typedEntries entries) = typedEntries entries
  | ⟨keys, ascending, value⟩ =>
      congrArg (Mapping.mk keys ascending) (funext fun place => settled_typed (value place))

end

end Value

/-! ## What operators yield -/

theorem isScalar_orOverflow {operation : String} {result : Option Int64} {value : Value}
    (fits : orOverflow operation result = .ok value) : value.isScalar = true := by
  cases result with
  | some word =>
      cases fits
      rfl
  | none => cases fits

theorem isScalar_fit {operation : String} {number : Int} {value : Value}
    (fits : fit operation number = .ok value) : value.isScalar = true :=
  isScalar_orOverflow fits

theorem UnaryOp.isScalar_apply {op : UnaryOp} {operand value : Value}
    (applied : op.apply operand = .ok value) : value.isScalar = true := by
  cases op with
  | not =>
      obtain ⟨_, _, rfl⟩ := map_eq_ok.mp applied
      rfl
  | negate =>
      obtain ⟨number, _, applied⟩ := bind_eq_ok.mp applied
      cases number with
      | int number => exact isScalar_fit applied
      | float number =>
          cases applied
          rfl

theorem BinaryOp.isScalar_apply {op : BinaryOp} {left right value : Value}
    (applied : op.apply left right = .ok value) : value.isScalar = true := by
  obtain ⟨first, _, applied⟩ := bind_eq_ok.mp applied
  obtain ⟨second, _, applied⟩ := bind_eq_ok.mp applied
  dsimp only at applied
  split at applied
  · cases applied
  · split at applied
    case h_6 =>
      split at applied
      · exact isScalar_orOverflow applied
      · cases applied
        rfl
    case h_7 =>
      cases applied
      rfl
    all_goals exact isScalar_orOverflow applied

namespace Builtin

variable {builtin : Builtin} {argument value : Value}

theorem isScalar_wholeNumber {number : Float}
    (made : builtin.wholeNumber number = .ok value) : value.isScalar = true := by
  rw [wholeNumber] at made
  split at made
  · split at made
    · cases made
      rfl
    · cases made
  · cases made

theorem isScalar_length (applied : length argument = .ok value) : value.isScalar = true := by
  rw [length.eq_def] at applied
  split at applied
  case h_4 => cases applied
  all_goals exact isScalar_fit applied

theorem isScalar_sumOf (applied : sumOf argument = .ok value) : value.isScalar = true := by
  obtain ⟨numbers, _, applied⟩ := bind_eq_ok.mp applied
  split at applied
  · split at applied <;> cases applied
    rfl
  · cases applied
    rfl

theorem isScalar_average (applied : average argument = .ok value) : value.isScalar = true := by
  obtain ⟨numbers, _, applied⟩ := bind_eq_ok.mp applied
  split at applied <;> cases applied
  rfl

theorem isScalar_toValue (number : Number) : number.toValue.isScalar = true := by
  cases number <;> rfl

theorem isScalar_extreme {wanted : Ordering}
    (applied : builtin.extreme wanted argument = .ok value) : value.isScalar = true := by
  obtain ⟨numbers, _, applied⟩ := bind_eq_ok.mp applied
  cases numbers with
  | nil => cases applied
  | cons first rest =>
      cases applied
      exact isScalar_toValue _

theorem isScalar_magnitude (applied : magnitude argument = .ok value) :
    value.isScalar = true := by
  obtain ⟨number, _, applied⟩ := bind_eq_ok.mp applied
  cases number with
  | int number => exact isScalar_fit applied
  | float number =>
      cases applied
      rfl

theorem isScalar_toInt (applied : toInt argument = .ok value) : value.isScalar = true := by
  cases argument with
  | int number =>
      cases applied
      rfl
  | float number => exact isScalar_wholeNumber applied
  | text content =>
      rw [toInt] at applied
      split at applied <;> cases applied
      rfl
  | _ => cases applied

theorem isScalar_toFloat (applied : toFloat argument = .ok value) : value.isScalar = true := by
  cases argument with
  | int number | float number =>
      cases applied
      rfl
  | text content =>
      rw [toFloat] at applied
      split at applied <;> cases applied
      rfl
  | _ => cases applied

theorem isScalar_roundTo {digits : Option Value} (applied : roundTo argument digits = .ok value) :
    value.isScalar = true := by
  obtain ⟨number, _, applied⟩ := bind_eq_ok.mp applied
  dsimp only at applied
  split at applied
  · exact isScalar_wholeNumber applied
  · split at applied <;> cases applied
    rfl
  · cases applied

theorem isScalar_apply {arguments : List Value}
    (applied : builtin.apply arguments = .ok value) : value.isScalar = true := by
  cases arguments with
  | nil => cases applied
  | cons first rest =>
      cases builtin with
      | len => exact isScalar_length applied
      | sum => exact isScalar_sumOf applied
      | avg => exact isScalar_average applied
      | min | max => exact isScalar_extreme applied
      | all | any =>
          obtain ⟨_, _, rfl⟩ := map_eq_ok.mp applied
          rfl
      | abs => exact isScalar_magnitude applied
      | int => exact isScalar_toInt applied
      | float => exact isScalar_toFloat applied
      | round => exact isScalar_roundTo applied

end Builtin

/-! ## What expressions yield -/

namespace Expr

mutual

/-- The literals and references of an expression, in the order of the text. -/
def leaves : Expr → List Expr
  | .literal value => [.literal value]
  | .reference target => [.reference target]
  | .list items => leavesOfAll items
  | .unary _ operand => operand.leaves
  | .binary _ left right => left.leaves ++ right.leaves
  | .compare _ left right => left.leaves ++ right.leaves
  | .logical _ left right => left.leaves ++ right.leaves
  | .call _ arguments => leavesOfAll arguments

/-- The literals and references of some expressions. -/
def leavesOfAll : List Expr → List Expr
  | [] => []
  | item :: items => item.leaves ++ leavesOfAll items

end

/-- Every literal among some leaves is settled. -/
def LiteralsSettled (leaves : List Expr) : Prop :=
  ∀ value, .literal value ∈ leaves → value.Settled

variable {results : Namespace} {value : Value} {values : List Value}

mutual

/-- An expression whose literals are settled has a settled value. -/
theorem settled_of_evaluate : ∀ {tree : Expr} {value : Value}, LiteralsSettled tree.leaves →
    tree.evaluate results = .ok value → value.Settled
  | .literal value, _, settled, evaluated => by
      cases evaluated
      exact settled value List.mem_cons_self
  | .reference _, _, _, evaluated => by
      obtain ⟨found, _, rfl⟩ := map_eq_ok.mp evaluated
      exact Value.settled_typed found
  | .list _, _, settled, evaluated => by
      obtain ⟨values, values_eq, rfl⟩ := map_eq_ok.mp evaluated
      exact Value.settled_list (settled_of_evaluateAll settled values_eq)
  | .unary _ _, _, _, evaluated => by
      obtain ⟨_, _, applied⟩ := bind_eq_ok.mp evaluated
      exact Value.settled_of_isScalar (UnaryOp.isScalar_apply applied)
  | .binary _ _ _, _, _, evaluated => by
      obtain ⟨_, _, evaluated⟩ := bind_eq_ok.mp evaluated
      obtain ⟨_, _, applied⟩ := bind_eq_ok.mp evaluated
      exact Value.settled_of_isScalar (BinaryOp.isScalar_apply applied)
  | .compare _ _ _, _, _, evaluated => by
      obtain ⟨_, _, evaluated⟩ := bind_eq_ok.mp evaluated
      obtain ⟨_, _, applied⟩ := bind_eq_ok.mp evaluated
      obtain ⟨_, _, rfl⟩ := map_eq_ok.mp applied
      rfl
  | .logical _ _ _, _, _, evaluated => by
      obtain ⟨_, _, evaluated⟩ := bind_eq_ok.mp evaluated
      obtain ⟨_, _, evaluated⟩ := bind_eq_ok.mp evaluated
      split at evaluated
      · cases evaluated
        rfl
      · obtain ⟨_, _, evaluated⟩ := bind_eq_ok.mp evaluated
        obtain ⟨_, _, made⟩ := bind_eq_ok.mp evaluated
        cases made
        rfl
  | .call _ _, _, _, evaluated => by
      obtain ⟨_, _, applied⟩ := bind_eq_ok.mp evaluated
      exact Value.settled_of_isScalar (Builtin.isScalar_apply applied)

theorem settled_of_evaluateAll : ∀ {items : List Expr} {values : List Value},
    LiteralsSettled (leavesOfAll items) → evaluateAll results items = .ok values →
    ∀ value ∈ values, value.Settled
  | [], _, _, evaluated, _, mem => by
      cases evaluated
      cases mem
  | item :: items, _, settled, evaluated, value, mem => by
      obtain ⟨first, first_eq, evaluated⟩ := bind_eq_ok.mp evaluated
      obtain ⟨rest, rest_eq, made⟩ := bind_eq_ok.mp evaluated
      cases made
      rcases List.mem_cons.mp mem with rfl | mem
      · exact settled_of_evaluate
          (fun literal mem => settled literal (List.mem_append_left _ mem)) first_eq
      · exact settled_of_evaluateAll
          (fun literal mem => settled literal (List.mem_append_right _ mem)) rest_eq value mem

end

end Expr

end Assay
