import Assay.Expr.Lexer

/-!
# Reading expressions

The grammar, from the loosest operator to the tightest: `or`, `and`, `not`, a comparison that does
not chain, sums, products, the minus sign, the power, which associates to the right and binds
tighter than a minus before it, and the primary expressions. Chains associate to the left.

A cursor counts the levels that are open. Whatever opens a level is read by the productions of the
next level, so the productions are built level upon level, one level more than can be open.
-/

namespace Assay

/-- A place among the lexemes of a source. -/
structure Cursor where
  /-- The lexemes from the place on. -/
  rest : List Lexeme
  /-- The number of lexemes before the place. -/
  index : Nat
  /-- The number of levels that are open. -/
  depth : Nat
  /-- The greatest number of levels that may be open. -/
  limit : Nat

namespace Cursor

/-- The lexeme at the place. -/
def lexeme (cursor : Cursor) : Lexeme := cursor.rest.headD ⟨.finish, 0, []⟩

/-- The token at the place. -/
def token (cursor : Cursor) : Token := cursor.lexeme.token

/-- The next place. There is none after the end of the source. -/
def advance (cursor : Cursor) : Cursor :=
  match cursor.rest with
  | [] => cursor
  | lexeme :: rest =>
    if lexeme.token.isFinish then cursor else { cursor with rest, index := cursor.index + 1 }

/-- The fault of finding the token at the place. -/
def fault (cursor : Cursor) (expected : Expected) : SyntaxFault :=
  { position := cursor.lexeme.position, expected, found := cursor.token.found
    text := cursor.lexeme.text, atStart := cursor.index == 0, call := none }

/-- The fault of opening one level too many. -/
def tooDeep (cursor : Cursor) : SyntaxFault :=
  { position := cursor.lexeme.position, expected := .shallower, found := .tooDeep
    text := cursor.lexeme.text, atStart := false, call := none }

/-- Opens a level. -/
def enter (cursor : Cursor) : Except SyntaxFault Cursor :=
  if cursor.depth < cursor.limit then .ok { cursor with depth := cursor.depth + 1 }
  else .error cursor.tooDeep

/-- Closes levels. -/
def leave (cursor : Cursor) (levels : Nat) : Cursor :=
  { cursor with depth := cursor.depth - levels }

end Cursor

/-- A way of reading something at a cursor, which also gives the cursor after it. -/
abbrev Production (α : Type) := Cursor → Except SyntaxFault (α × Cursor)

/-- The productions that are used one level down. -/
structure Level where
  /-- A whole expression. -/
  expression : Production Expr
  /-- An operand of `or`. -/
  conjunction : Production Expr
  /-- An operand of `and` or `not`. -/
  negation : Production Expr
  /-- An operand of a sum. -/
  product : Production Expr
  /-- An operand of a product, a minus or a power. -/
  signed : Production Expr
  /-- The rest of a chain of `or` with some levels open, from its first operands on. -/
  moreDisjuncts : Nat → Expr → Production Expr
  /-- The rest of a chain of `and`. -/
  moreConjuncts : Nat → Expr → Production Expr
  /-- The rest of a sum. -/
  moreTerms : Nat → Expr → Production Expr
  /-- The rest of a product. -/
  moreFactors : Nat → Expr → Production Expr

namespace Parser

/-- What a token makes of the operands on both sides of it, if it is the operator of a chain. -/
abbrev Joint := Token → Option (Expr → Expr → Expr)

/-- The operator of disjunctions. -/
def disjunct? : Joint
  | .or => some (.logical .or)
  | _ => none

/-- The operator of conjunctions. -/
def conjunct? : Joint
  | .and => some (.logical .and)
  | _ => none

/-- The operators of sums. -/
def term? : Joint
  | .plus => some (.binary .add)
  | .minus => some (.binary .subtract)
  | _ => none

/-- The operators of products. -/
def factor? : Joint
  | .star => some (.binary .multiply)
  | .slash => some (.binary .divide)
  | .slashes => some (.binary .floorDivide)
  | .percent => some (.binary .modulo)
  | _ => none

/-- The comparisons. -/
def comparison? : Token → Option CompareOp
  | .equal => some .equal
  | .notEqual => some .notEqual
  | .less => some .less
  | .atMost => some .atMost
  | .greater => some .greater
  | .atLeast => some .atLeast
  | _ => none

/-- Reads on in a chain. Each operator opens a level, and the end of the chain closes all of
them. -/
def chainTail (joint? : Joint) (operand : Production Expr) (more : Nat → Expr → Production Expr)
    (levels : Nat) (left : Expr) : Production Expr := fun cursor =>
  match joint? cursor.token with
  | none => .ok (left, cursor.leave levels)
  | some joint => do
    let inside ← cursor.advance.enter
    let (right, after) ← operand inside
    more (levels + 1) (joint left right) after

/-- Reads a chain: an operand and what follows it. -/
def chain (operand : Production Expr) (more : Nat → Expr → Production Expr) :
    Production Expr := fun cursor => do
  let (first, after) ← operand cursor
  more 0 first after

/-- The segment that a token is. -/
def segment? : Token → Option Segment
  | .name field => some (.field field)
  | .int place => if 0 ≤ place.toInt then some (.index place.toInt.toNat) else none
  | .star => some .wildcard
  | _ => none

/-- Reads the segments of a reference, each after a point. -/
def path (index depth limit : Nat) :
    List Lexeme → Except SyntaxFault (List Segment × Cursor)
  | ⟨.dot, _, _⟩ :: next :: rest =>
    match segment? next.token with
    | some segment => do
      let (segments, after) ← path (index + 2) depth limit rest
      return (segment :: segments, after)
    | none => .error (Cursor.fault ⟨next :: rest, index + 1, depth, limit⟩ .segment)
  | rest => .ok ([], ⟨rest, index, depth, limit⟩)

/-- Reads expressions with commas between them up to the closing token. Each takes at least one
lexeme, so there are no more of them than lexemes. -/
def moreItems (expression : Production Expr) (closes : Token → Bool) (expected : Expected) :
    Nat → Production (List Expr)
  | 0, cursor => .error (cursor.fault expected)
  | limit + 1, cursor => do
    let (item, after) ← expression cursor
    match after.token with
    | .comma => do
      let (items, last) ← moreItems expression closes expected limit after.advance
      return (item :: items, last)
    | other =>
      if closes other then return ([item], after.advance.leave 1)
      else .error (after.fault expected)

/-- Reads the items of a list or the arguments of a call, and the token that closes them. -/
def items (deeper : Level) (closes : Token → Bool) (expected : Expected) :
    Production (List Expr) := fun cursor =>
  if closes cursor.token then .ok ([], cursor.advance)
  else do
    let inside ← cursor.enter
    moreItems deeper.expression closes expected inside.rest.length inside

/-- The fault of a call whose name stands at a cursor. -/
def callFault (cursor : Cursor) (expected : Expected) (problem : CallProblem) : SyntaxFault :=
  { cursor.fault expected with call := some problem }

/-- Reads a call or a reference from its name on. -/
def named (deeper : Level) (name : String) : Production Expr := fun cursor =>
  let after := cursor.advance
  match after.token with
  | .openParen =>
    match Builtin.ofName? name with
    | none => .error (callFault cursor .function .unknownFunction)
    | some builtin => do
      let (arguments, last) ←
        items deeper Token.isCloseParen .argumentSeparator after.advance
      if builtin.takes arguments.length then return (.call builtin arguments, last)
      else .error (callFault cursor .arity (.argumentCount builtin arguments.length))
  | _ => do
    let (segments, last) ← path after.index after.depth after.limit after.rest
    return (.reference ⟨name, segments⟩, last)

/-- Reads a literal, a call, a reference, a list or an expression in parentheses. -/
def primary (deeper : Level) : Production Expr := fun cursor =>
  match cursor.token with
  | .int number => .ok (.literal (.int number), cursor.advance)
  | .float number => .ok (.literal (.float number), cursor.advance)
  | .text content => .ok (.literal (.text content), cursor.advance)
  | .truth value => .ok (.literal (.bool value), cursor.advance)
  | .openParen => do
    let inside ← cursor.advance.enter
    let (inner, after) ← deeper.expression inside
    match after.token with
    | .closeParen => return (inner, after.advance.leave 1)
    | _ => .error (after.fault .closeParen)
  | .openBracket => do
    let (elements, after) ← items deeper Token.isCloseBracket .listSeparator cursor.advance
    return (.list elements, after)
  | .name name => named deeper name cursor
  | _ => .error (cursor.fault .operand)

/-- Reads a primary expression and the power to which it is taken. -/
def power (deeper : Level) : Production Expr := fun cursor => do
  let (base, after) ← primary deeper cursor
  match after.token with
  | .caret => do
    let inside ← after.advance.enter
    let (exponent, last) ← deeper.signed inside
    return (.binary .power base exponent, last.leave 1)
  | _ => return (base, after)

/-- Reads an operand with the minus signs before it. -/
def signed (deeper : Level) : Production Expr := fun cursor =>
  match cursor.token with
  | .minus => do
    let inside ← cursor.advance.enter
    let (operand, after) ← deeper.signed inside
    return (.unary .negate operand, after.leave 1)
  | _ => power deeper cursor

/-- Reads on in a product. -/
def moreFactors (deeper : Level) : Nat → Expr → Production Expr :=
  chainTail factor? deeper.signed deeper.moreFactors

/-- Reads a product. -/
def product (deeper : Level) : Production Expr := chain (signed deeper) (moreFactors deeper)

/-- Reads on in a sum. -/
def moreTerms (deeper : Level) : Nat → Expr → Production Expr :=
  chainTail term? deeper.product deeper.moreTerms

/-- Reads a sum. -/
def sum (deeper : Level) : Production Expr := chain (product deeper) (moreTerms deeper)

/-- Reads a sum, or the comparison of two. -/
def comparison (deeper : Level) : Production Expr := fun cursor => do
  let (left, after) ← sum deeper cursor
  match comparison? after.token with
  | some op => do
    let (right, last) ← sum deeper after.advance
    return (.compare op left right, last)
  | none => return (left, after)

/-- Reads a comparison with the words `not` before it. -/
def negation (deeper : Level) : Production Expr := fun cursor =>
  match cursor.token with
  | .not => do
    let inside ← cursor.advance.enter
    let (operand, after) ← deeper.negation inside
    return (.unary .not operand, after.leave 1)
  | _ => comparison deeper cursor

/-- Reads on in a conjunction. -/
def moreConjuncts (deeper : Level) : Nat → Expr → Production Expr :=
  chainTail conjunct? deeper.negation deeper.moreConjuncts

/-- Reads a conjunction. -/
def conjunction (deeper : Level) : Production Expr :=
  chain (negation deeper) (moreConjuncts deeper)

/-- Reads on in a disjunction. -/
def moreDisjuncts (deeper : Level) : Nat → Expr → Production Expr :=
  chainTail disjunct? deeper.conjunction deeper.moreDisjuncts

/-- Reads a disjunction, which is any expression. -/
def expression (deeper : Level) : Production Expr :=
  chain (conjunction deeper) (moreDisjuncts deeper)

end Parser

namespace Level

/-- The level that reads nothing because it lies too deep. -/
def floor : Level :=
  let refuse : Production Expr := fun cursor => .error cursor.tooDeep
  { expression := refuse, conjunction := refuse, negation := refuse, product := refuse
    signed := refuse, moreDisjuncts := fun _ _ => refuse, moreConjuncts := fun _ _ => refuse
    moreTerms := fun _ _ => refuse, moreFactors := fun _ _ => refuse }

/-- The level above another one. -/
def above (deeper : Level) : Level where
  expression := Parser.expression deeper
  conjunction := Parser.conjunction deeper
  negation := Parser.negation deeper
  product := Parser.product deeper
  signed := Parser.signed deeper
  moreDisjuncts := Parser.moreDisjuncts deeper
  moreConjuncts := Parser.moreConjuncts deeper
  moreTerms := Parser.moreTerms deeper
  moreFactors := Parser.moreFactors deeper

/-- The level below which there is room for as many more. -/
def withRoom : Nat → Level
  | 0 => floor.above
  | room + 1 => (withRoom room).above

end Level

namespace Expr

/-- Reads the lexemes of a source as one expression. -/
def ofLexemes (lexemes : List Lexeme) : Except SyntaxFault Expr := do
  let (tree, after) ← (Level.withRoom maxNesting).expression ⟨lexemes, 0, 0, maxNesting⟩
  if after.token.isFinish then return tree else .error (after.fault .operatorOrEnd)

/-- Reads a source as an expression. -/
def read (source : String) : Except SyntaxFault Expr := do
  ofLexemes (← tokenize source)

end Expr

end Assay
