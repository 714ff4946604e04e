import Assay.Proofs.Grammar.Routine
import Assay.Proofs.Grammar.Soundness

/-!
# Productions as routines

What a production does at a cursor is written out as a routine, move by move. The run of the routine
is the production, on every level.
-/

namespace Assay
namespace Grammar

open Assay.Parser

/-- The routines that are used one level down. -/
structure Routines where
  /-- Those that read phrases. -/
  phrase : Category → Routine Expr
  /-- Those that read on in chains, from their first operands on. -/
  more : Link → Nat → Expr → Routine Expr

namespace Routine

/-! ## The routines of the productions -/

/-- Reads on in a chain. -/
def chainTail (joint? : Joint) (operand : Routine Expr) (more : Nat → Expr → Routine Expr)
    (levels : Nat) (left : Expr) : Routine Expr := do
  match joint? (← token) with
  | none =>
    move (.leave levels)
    return left
  | some joint =>
    move .advance
    move .enter
    let right ← operand
    more (levels + 1) (joint left right)

/-- Reads a chain. -/
def chain (operand : Routine Expr) (more : Nat → Expr → Routine Expr) : Routine Expr := do
  let first ← operand
  more 0 first

/-- Reads the segments of a reference, where the given lexemes stand. -/
def path : List Lexeme → Routine (List Segment)
  | ⟨.dot, _, _⟩ :: next :: rest => do
    move .advance
    match segment? next.token with
    | some segment =>
      move .advance
      let segments ← path rest
      return segment :: segments
    | none => fault .segment
  | _ => return []

/-- Reads expressions with commas between them up to the closing token. -/
def moreItems (expression : Routine Expr) (closes : Token → Bool) (expected : Expected) :
    Nat → Routine (List Expr)
  | 0 => fault expected
  | limit + 1 => do
    let item ← expression
    match ← token with
    | .comma =>
      move .advance
      let items ← moreItems expression closes expected limit
      return item :: items
    | other =>
      if closes other then
        move .advance
        move (.leave 1)
        return [item]
      else fault expected

/-- Reads the items of a list or the arguments of a call, and the token that closes them. -/
def items (deeper : Routines) (closes : Token → Bool) (expected : Expected) :
    Routine (List Expr) := do
  if closes (← token) then
    move .advance
    return []
  else
    move .enter
    let inside ← here
    moreItems (deeper.phrase .expression) closes expected inside.rest.length

/-- Reads a call or a reference from its name on. -/
def named (deeper : Routines) (name : String) : Routine Expr := do
  let start ← here
  move .advance
  match ← token with
  | .openParen =>
    match Builtin.ofName? name with
    | none => fail (callFault start .function .unknownFunction)
    | some builtin =>
      move .advance
      let arguments ← items deeper Token.isCloseParen .argumentSeparator
      if builtin.takes arguments.length then return .call builtin arguments
      else fail (callFault start .arity (.argumentCount builtin arguments.length))
  | _ =>
    let after ← here
    let segments ← path after.rest
    return .reference ⟨name, segments⟩

/-- Reads a literal of one token. -/
def literal (value : Value) : Routine Expr := do
  move .advance
  return .literal value

/-- Reads a literal, a call, a reference, a list or an expression in parentheses. -/
def primary (deeper : Routines) : Routine Expr := do
  match ← token with
  | .int number => literal (.int number)
  | .float number => literal (.float number)
  | .text content => literal (.text content)
  | .truth value => literal (.bool value)
  | .openParen =>
    move .advance
    move .enter
    let inner ← deeper.phrase .expression
    match ← token with
    | .closeParen =>
      move .advance
      move (.leave 1)
      return inner
    | _ => fault .closeParen
  | .openBracket =>
    move .advance
    let elements ← items deeper Token.isCloseBracket .listSeparator
    return .list elements
  | .name name => named deeper name
  | _ => fault .operand

/-- Reads an operand below one more level, after the token of its operator. -/
def nested (operand : Routine Expr) (wrap : Expr → Expr) : Routine Expr := do
  move .advance
  move .enter
  let inner ← operand
  move (.leave 1)
  return wrap inner

/-- Reads a primary expression and the power to which it is taken. -/
def power (deeper : Routines) : Routine Expr := do
  let base ← primary deeper
  match ← token with
  | .caret => nested (deeper.phrase .signed) (.binary .power base)
  | _ => return base

/-- Reads an operand with the minus signs before it. -/
def signed (deeper : Routines) : Routine Expr := do
  match ← token with
  | .minus => nested (deeper.phrase .signed) (.unary .negate)
  | _ => power deeper

/-- Reads on in a chain whose operands are phrases. -/
def more (deeper : Routines) (link : Link) : Nat → Expr → Routine Expr :=
  chainTail link.joint? (deeper.phrase link.operand) (deeper.more link)

/-- Reads a product. -/
def product (deeper : Routines) : Routine Expr := chain (signed deeper) (more deeper .product)

/-- Reads a sum. -/
def sum (deeper : Routines) : Routine Expr := chain (product deeper) (more deeper .sum)

/-- Reads a sum, or the comparison of two. -/
def comparison (deeper : Routines) : Routine Expr := do
  let left ← sum deeper
  match comparison? (← token) with
  | some op =>
    move .advance
    let right ← sum deeper
    return .compare op left right
  | none => return left

/-- Reads a comparison with the words `not` before it. -/
def negation (deeper : Routines) : Routine Expr := do
  match ← token with
  | .not => nested (deeper.phrase .negation) (.unary .not)
  | _ => comparison deeper

/-- Reads a conjunction. -/
def conjunction (deeper : Routines) : Routine Expr :=
  chain (negation deeper) (more deeper .conjunction)

/-- Reads a disjunction, which is any expression. -/
def expression (deeper : Routines) : Routine Expr :=
  chain (conjunction deeper) (more deeper .disjunction)

/-- Reads a phrase of a kind. -/
def phrase (deeper : Routines) : Category → Routine Expr
  | .chain .disjunction => expression deeper
  | .chain .conjunction => conjunction deeper
  | .chain .sum => sum deeper
  | .chain .product => product deeper
  | .negation => negation deeper
  | .comparison => comparison deeper
  | .signed => signed deeper
  | .power => power deeper
  | .primary => primary deeper

end Routine

namespace Routines

/-- The routines that read nothing because they lie too deep. -/
def floor : Routines :=
  let refuse : Routine Expr := .look fun cursor => .fail cursor.tooDeep
  { phrase := fun _ => refuse, more := fun _ _ _ => refuse }

/-- The routines of some number of levels. -/
def ofLevels : Nat → Routines
  | 0 => floor
  | levels + 1 => { phrase := Routine.phrase (ofLevels levels)
                    more := Routine.more (ofLevels levels) }

end Routines

namespace Routine

/-! ## Their runs -/

section Run

variable {deeper : Routines} {level : Level} {operand : Routine Expr}
  {more : Nat → Expr → Routine Expr} {production : Production Expr}
  {tail : Nat → Expr → Production Expr}

theorem run_chainTail {joint? : Joint} (first : operand.run = production)
    (rest : ∀ count left, (more count left).run = tail count left) (count : Nat) (left : Expr) :
    (chainTail joint? operand more count left).run =
      Parser.chainTail joint? production tail count left := by
  funext cursor
  rw [chainTail, run_token_bind, Parser.chainTail]
  cases joint? cursor.token with
  | none => rfl
  | some joint =>
      rw [run_advance_bind, run_enter_bind]
      refine bind_congr fun inside => ?_
      rw [run_bind, first]
      simp only [rest]

theorem run_chain (first : operand.run = production)
    (rest : ∀ count left, (more count left).run = tail count left) :
    (chain operand more).run = Parser.chain production tail := by
  funext cursor
  rw [chain, run_bind, first]
  simp only [rest]
  rfl

theorem run_path (index depth limit : Nat) (lexemes : List Lexeme) :
    (path lexemes).run ⟨lexemes, index, depth, limit⟩ = Parser.path index depth limit lexemes := by
  fun_induction Parser.path index depth limit lexemes with
  | case1 index position text next rest segment found ih =>
      have unfinished := (segment?_names found).2
      rw [path, run_advance_bind, found]
      dsimp only
      rw [run_advance_bind, Cursor.advance_cons rfl, Cursor.advance_cons unfinished, run_bind, ih]
      rfl
  | case2 index position text next rest found =>
      rw [path, run_advance_bind, found]
      rfl
  | case3 index lexemes apart =>
      -- No point stands there, or nothing behind it.
      rw [path]
      · rfl
      · exact apart

theorem run_moreItems (inside : operand.run = production) (closes : Token → Bool)
    (expected : Expected) (limit : Nat) : (moreItems operand closes expected limit).run =
      Parser.moreItems production closes expected limit := by
  induction limit with
  | zero => rfl
  | succ limit ih =>
      funext cursor
      rw [moreItems, run_bind, inside, Parser.moreItems]
      refine bind_congr fun result => ?_
      obtain ⟨item, after⟩ := result
      rw [run_token_bind]
      dsimp only
      cases after.token with
      | comma =>
          rw [run_advance_bind, run_bind, ih]
          rfl
      | _ => exact run_ite

theorem run_items (inside : (deeper.phrase .expression).run = level.expression)
    (closes : Token → Bool) (expected : Expected) :
    (items deeper closes expected).run = Parser.items level closes expected := by
  funext cursor
  rw [items, run_token_bind, run_ite, run_enter_bind, Parser.items]
  -- The count of the lexemes behind the opened level bounds the items, as it does for the parser.
  have run_inside : (here >>= fun inside =>
      moreItems (deeper.phrase .expression) closes expected inside.rest.length).run =
      fun inside => Parser.moreItems level.expression closes expected inside.rest.length inside := by
    funext cursor
    rw [run_here_bind, run_moreItems inside]
  rw [run_inside]
  rfl

theorem run_named (inside : (deeper.phrase .expression).run = level.expression) (name : String) :
    (named deeper name).run = Parser.named level name := by
  funext cursor
  rw [named, run_here_bind, run_advance_bind, run_token_bind, Parser.named]
  dsimp only
  cases cursor.advance.token with
  | openParen =>
      cases Builtin.ofName? name with
      | none => rfl
      | some builtin =>
          rw [run_advance_bind, run_bind, run_items inside]
          simp only [run_ite]
          rfl
  | _ =>
      rw [run_here_bind, run_bind, run_path]
      rfl

theorem run_nested (inside : operand.run = production) (wrap : Expr → Expr) (cursor : Cursor) :
    (nested operand wrap).run cursor = (do
      let within ← cursor.advance.enter
      let (inner, after) ← production within
      return (wrap inner, after.leave 1)) := by
  rw [nested, run_advance_bind, run_enter_bind]
  refine bind_congr fun within => ?_
  rw [run_bind, inside]
  rfl

theorem run_primary (inside : (deeper.phrase .expression).run = level.expression) :
    (primary deeper).run = Parser.primary level := by
  funext cursor
  rw [primary, run_token_bind, Parser.primary]
  cases cursor.token with
  | openParen =>
      rw [run_advance_bind, run_enter_bind]
      refine bind_congr fun within => ?_
      rw [run_bind, inside]
      refine bind_congr fun result => ?_
      obtain ⟨inner, after⟩ := result
      rw [run_token_bind]
      dsimp only
      cases after.token <;> rfl
  | openBracket =>
      rw [run_advance_bind, run_bind, run_items inside]
      rfl
  | name name => exact congrFun (run_named inside name) cursor
  | _ => rfl

theorem run_power (base : (primary deeper).run = Parser.primary level)
    (exponent : (deeper.phrase .signed).run = level.signed) :
    (power deeper).run = Parser.power level := by
  funext cursor
  rw [power, run_bind, base, Parser.power]
  refine bind_congr fun result => ?_
  obtain ⟨left, after⟩ := result
  rw [run_token_bind]
  dsimp only
  cases after.token with
  | caret => exact run_nested exponent _ after
  | _ => rfl

theorem run_signed (unsigned : (power deeper).run = Parser.power level)
    (operand : (deeper.phrase .signed).run = level.signed) :
    (signed deeper).run = Parser.signed level := by
  funext cursor
  rw [signed, run_token_bind, Parser.signed]
  cases cursor.token with
  | minus => exact run_nested operand _ cursor
  | _ => rw [unsigned]

theorem run_comparison (terms : (sum deeper).run = Parser.sum level) :
    (comparison deeper).run = Parser.comparison level := by
  funext cursor
  rw [comparison, run_bind, terms, Parser.comparison]
  refine bind_congr fun result => ?_
  obtain ⟨left, after⟩ := result
  rw [run_token_bind]
  dsimp only
  cases comparison? after.token with
  | some op =>
      rw [run_advance_bind, run_bind, terms]
      rfl
  | none => rfl

theorem run_negation (plain : (comparison deeper).run = Parser.comparison level)
    (operand : (deeper.phrase .negation).run = level.negation) :
    (negation deeper).run = Parser.negation level := by
  funext cursor
  rw [negation, run_token_bind, Parser.negation]
  cases cursor.token with
  | not => exact run_nested operand _ cursor
  | _ => rw [plain]

/-- On each level the runs of the routines are the productions. -/
theorem hereditary_run :
    Hereditary
      (fun levels category production =>
        ((Routines.ofLevels levels).phrase category).run = production)
      (fun levels link tail => ∀ count left,
        ((Routines.ofLevels levels).more link count left).run = tail count left) where
  refuse := rfl
  refuseTail := fun _ _ => rfl
  chain := by
    intro levels link operand more first rest
    cases link <;> exact run_chain first rest
  chainTail := run_chainTail
  primary := run_primary
  power := run_power
  signed := run_signed
  comparison := run_comparison
  negation := run_negation

end Run

end Routine

end Grammar
end Assay
