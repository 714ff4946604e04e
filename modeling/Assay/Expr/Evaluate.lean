import Assay.Expr.Builtin
import Assay.Expr.Diagnosis

/-!
# Evaluating expressions

The value of an expression against a namespace. A reference yields what the text at its end
spells; a logical operator looks at its second operand only when the first does not decide.
-/

namespace Assay

namespace Reference

/-- Follows a path from a value. -/
def walk (reference : Reference) : List Segment → Value → Except EvalError Value
  | [], value => .ok value
  | segment :: path, value =>
    let onward : Option Value → Except EvalError Value
      | some element => walk reference path element
      | none => .error (.missingElement reference segment)
    match segment, value with
    | .wildcard, .list items => (items.mapM (walk reference path)).map .list
    | .wildcard, .mapping entries => (entries.values.mapM (walk reference path)).map .list
    | .index place, .list items => onward items[place]?
    | .index place, .mapping entries => onward (entries.get? (toString place))
    | .field name, .mapping entries => onward (entries.get? name)
    | _, other => .error (.typeMismatch (.noElements other.typeName reference))

/-- The value that a reference means. -/
def resolve (reference : Reference) (results : Namespace) : Except EvalError Value :=
  match results.get? reference.key with
  | some value => reference.walk reference.path value
  | none => .error (.unknownKey reference.key)

end Reference

namespace LogicalOp

/-- The value of the first operand that decides alone. -/
def decisive : LogicalOp → Bool
  | .and => false
  | .or => true

end LogicalOp

namespace Expr

mutual

/-- The value of an expression against a namespace. -/
def evaluate (results : Namespace) : Expr → Except EvalError Value
  | .literal value => .ok value
  | .reference target => (target.resolve results).map Value.typed
  | .list items => (evaluateAll results items).map .list
  | .unary op operand => do op.apply (← operand.evaluate results)
  | .binary op left right => do
    let first ← left.evaluate results
    let second ← right.evaluate results
    op.apply first second
  | .compare op left right => do
    let first ← left.evaluate results
    let second ← right.evaluate results
    (op.apply first second).map .bool
  | .logical op left right => do
    let first ← (← left.evaluate results).expectBool op.symbol
    if first = op.decisive then return .bool first
    else
      let second ← (← right.evaluate results).expectBool op.symbol
      return .bool second
  | .call builtin arguments => do builtin.apply (← evaluateAll results arguments)

/-- The values of some expressions, up to the first that has none. -/
def evaluateAll (results : Namespace) : List Expr → Except EvalError (List Value)
  | [] => .ok []
  | item :: items => do
    let first ← item.evaluate results
    let rest ← evaluateAll results items
    return first :: rest

end

end Expr

/-- The value of an expression against a namespace. -/
def Expression.evaluate (expression : Expression) (results : Namespace) :
    Except EvalError Value :=
  expression.tree.evaluate results

end Assay
