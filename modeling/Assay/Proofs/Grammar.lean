import Assay.Expr.Tree
import Assay.Expr.Token

/-!
# The grammar of expressions

The language by rules of derivation, from the loosest operator to the tightest. Each derivation
has a demand, the number of levels that are open at once while its text is read from left to
right: the operand after the `n`th operator of a chain is read below `n` levels, and the operand
of a `not`, a minus or a power, the inside of parentheses and the items of a list or a call are
read below one more.
-/

namespace Assay
namespace Grammar

/-- The four kinds of chains of operands with operators between them. -/
inductive Link where
  /-- Operands joined by `or`. -/
  | disjunction
  /-- Operands joined by `and`. -/
  | conjunction
  /-- Operands added and subtracted. -/
  | sum
  /-- Operands multiplied and divided. -/
  | product
  deriving DecidableEq

/-- The kinds of phrases. -/
inductive Category where
  /-- A chain of one operand or more. -/
  | chain (link : Link)
  /-- A comparison with any number of `not` before it. -/
  | negation
  /-- A sum, or two compared. -/
  | comparison
  /-- A power with any number of minus signs before it. -/
  | signed
  /-- A primary expression, perhaps taken to a power. -/
  | power
  /-- A literal, a reference, a call, a list or a whole expression in parentheses. -/
  | primary
  deriving DecidableEq

/-- A whole expression is a disjunction. -/
abbrev Category.expression : Category := .chain .disjunction

/-- The operands of a chain. -/
def Link.operand : Link → Category
  | .disjunction => .chain .conjunction
  | .conjunction => .negation
  | .sum => .chain .product
  | .product => .signed

/-- The operators of a chain, with what they make of the operands on both sides. -/
inductive Link.Joins : Link → Token → (Expr → Expr → Expr) → Prop
  /-- The word `or`. -/
  | or : Joins .disjunction .or (.logical .or)
  /-- The word `and`. -/
  | and : Joins .conjunction .and (.logical .and)
  /-- The sign `+`. -/
  | add : Joins .sum .plus (.binary .add)
  /-- The sign `-`. -/
  | subtract : Joins .sum .minus (.binary .subtract)
  /-- The sign `*`. -/
  | multiply : Joins .product .star (.binary .multiply)
  /-- The sign `/`. -/
  | divide : Joins .product .slash (.binary .divide)
  /-- The sign `//`. -/
  | floorDivide : Joins .product .slashes (.binary .floorDivide)
  /-- The sign `%`. -/
  | modulo : Joins .product .percent (.binary .modulo)

/-- The sign of a comparison. -/
def sign : CompareOp → Token
  | .equal => .equal
  | .notEqual => .notEqual
  | .less => .less
  | .atMost => .atMost
  | .greater => .greater
  | .atLeast => .atLeast

/-- The tokens that are literals. -/
inductive Literal : Token → Value → Prop
  /-- A whole number. -/
  | int (number : Int64) : Literal (.int number) (.int number)
  /-- A double. -/
  | float (number : Float) : Literal (.float number) (.float number)
  /-- A text. -/
  | text (content : String) : Literal (.text content) (.text content)
  /-- A truth value. -/
  | truth (value : Bool) : Literal (.truth value) (.bool value)

/-- The tokens that are segments of a reference. -/
inductive Names : Token → Segment → Prop
  /-- A field. -/
  | field (name : String) : Names (.name name) (.field name)
  /-- A place, which no sign stands before. -/
  | index {number : Int64} {place : Nat} (value : number.toInt = place) :
      Names (.int number) (.index place)
  /-- Every element. -/
  | wildcard : Names .star .wildcard

/-- The segments of a reference, each after a point. -/
inductive Segments : List Token → List Segment → Prop
  /-- No more segments. -/
  | nil : Segments [] []
  /-- A segment and what follows it. -/
  | cons {token : Token} {segment : Segment} {tokens : List Token} {segments : List Segment}
      (names : Names token segment) (rest : Segments tokens segments) :
      Segments (.dot :: token :: tokens) (segment :: segments)

section

variable (accepts : Builtin → Nat → Bool)

mutual

/-- A phrase of some kind with its tokens, its tree and its demand, in a language whose functions
accept the given numbers of arguments. -/
inductive Derives : Category → List Token → Expr → Nat → Prop
  /-- A chain: its first operand and what follows it. -/
  | chain {link : Link} {front back : List Token} {first tree : Expr} {demand rest : Nat}
      (operand : Derives link.operand front first demand)
      (continues : Continues link 0 first back tree rest) :
      Derives (.chain link) (front ++ back) tree (max demand rest)
  /-- A logical negation. -/
  | not {tokens : List Token} {tree : Expr} {demand : Nat}
      (operand : Derives .negation tokens tree demand) :
      Derives .negation (.not :: tokens) (.unary .not tree) (demand + 1)
  /-- A comparison that is not negated. -/
  | plain {tokens : List Token} {tree : Expr} {demand : Nat}
      (operand : Derives .comparison tokens tree demand) : Derives .negation tokens tree demand
  /-- Two sums compared. -/
  | compare {op : CompareOp} {front back : List Token} {left right : Expr} {demand rest : Nat}
      (first : Derives (.chain .sum) front left demand)
      (second : Derives (.chain .sum) back right rest) :
      Derives .comparison (front ++ sign op :: back) (.compare op left right) (max demand rest)
  /-- A sum that is not compared. -/
  | single {tokens : List Token} {tree : Expr} {demand : Nat}
      (operand : Derives (.chain .sum) tokens tree demand) :
      Derives .comparison tokens tree demand
  /-- An arithmetic negation. -/
  | minus {tokens : List Token} {tree : Expr} {demand : Nat}
      (operand : Derives .signed tokens tree demand) :
      Derives .signed (.minus :: tokens) (.unary .negate tree) (demand + 1)
  /-- A power without a minus. -/
  | unsigned {tokens : List Token} {tree : Expr} {demand : Nat}
      (operand : Derives .power tokens tree demand) : Derives .signed tokens tree demand
  /-- A power, whose exponent may have a minus and be a power itself. -/
  | power {front back : List Token} {base exponent : Expr} {demand rest : Nat}
      (first : Derives .primary front base demand)
      (second : Derives .signed back exponent rest) :
      Derives .power (front ++ .caret :: back) (.binary .power base exponent)
        (max demand (rest + 1))
  /-- A primary expression that is taken to no power. -/
  | base {tokens : List Token} {tree : Expr} {demand : Nat}
      (operand : Derives .primary tokens tree demand) : Derives .power tokens tree demand
  /-- A literal. -/
  | literal {token : Token} {value : Value} (literal : Literal token value) :
      Derives .primary [token] (.literal value) 0
  /-- A reference. -/
  | reference {name : String} {tokens : List Token} {path : List Segment}
      (segments : Segments tokens path) :
      Derives .primary (.name name :: tokens) (.reference ⟨name, path⟩) 0
  /-- A call of a known function with a number of arguments that it accepts. -/
  | call {name : String} {builtin : Builtin} {tokens : List Token} {arguments : List Expr}
      {demand : Nat} (known : Builtin.ofName? name = some builtin)
      (items : Encloses tokens arguments demand)
      (accepted : accepts builtin arguments.length = true) :
      Derives .primary (.name name :: .openParen :: (tokens ++ [.closeParen]))
        (.call builtin arguments) demand
  /-- A list. -/
  | list {tokens : List Token} {elements : List Expr} {demand : Nat}
      (items : Encloses tokens elements demand) :
      Derives .primary (.openBracket :: (tokens ++ [.closeBracket])) (.list elements) demand
  /-- An expression in parentheses. -/
  | parentheses {tokens : List Token} {tree : Expr} {demand : Nat}
      (inside : Derives .expression tokens tree demand) :
      Derives .primary (.openParen :: (tokens ++ [.closeParen])) tree (demand + 1)

/-- The rest of a chain after some operators, whose operands so far have been joined from the
left. -/
inductive Continues : Link → Nat → Expr → List Token → Expr → Nat → Prop
  /-- The end of the chain. -/
  | done {link : Link} {count : Nat} {left : Expr} : Continues link count left [] left 0
  /-- One more operator with its operand. -/
  | more {link : Link} {count : Nat} {left right tree : Expr} {token : Token}
      {join : Expr → Expr → Expr} {front back : List Token} {demand rest : Nat}
      (joins : link.Joins token join) (operand : Derives link.operand front right demand)
      (continues : Continues link (count + 1) (join left right) back tree rest) :
      Continues link count left (token :: (front ++ back)) tree (max (count + 1 + demand) rest)

/-- Expressions with commas between them. -/
inductive Lists : List Token → List Expr → Nat → Prop
  /-- The last one. -/
  | last {tokens : List Token} {tree : Expr} {demand : Nat}
      (item : Derives .expression tokens tree demand) : Lists tokens [tree] demand
  /-- One with others after it. -/
  | more {front back : List Token} {tree : Expr} {trees : List Expr} {demand rest : Nat}
      (item : Derives .expression front tree demand) (items : Lists back trees rest) :
      Lists (front ++ .comma :: back) (tree :: trees) (max demand rest)

/-- What may stand between the brackets of a list or the parentheses of a call. -/
inductive Encloses : List Token → List Expr → Nat → Prop
  /-- Nothing. -/
  | none : Encloses [] [] 0
  /-- One expression or more. -/
  | some {tokens : List Token} {trees : List Expr} {demand : Nat}
      (items : Lists tokens trees demand) : Encloses tokens trees (demand + 1)

end

end

/-! ## First tokens -/

/-- The next tighter kind of phrases, with one of which a phrase starts unless an operator stands
before it. -/
def Category.inner : Category → Category
  | .chain link => link.operand
  | .negation => .comparison
  | .comparison => .chain .sum
  | .signed => .power
  | .power | .primary => .primary

/-- Whether a phrase of some kind may start with a token. -/
def Category.startsWith : Category → Token → Bool
  | _, .int _ | _, .float _ | _, .text _ | _, .truth _ | _, .name _ => true
  | _, .openParen | _, .openBracket => true
  | .power, .minus | .primary, .minus => false
  | _, .minus => true
  | .negation, .not | .chain .conjunction, .not | .chain .disjunction, .not => true
  | _, _ => false

theorem Category.startsWith_of_inner {category : Category} {token : Token}
    (starts : category.inner.startsWith token = true) : category.startsWith token = true := by
  cases token <;> cases category <;> simp_all [inner, startsWith]
  all_goals
    rename_i link
    cases link <;> simp_all [Link.operand]

variable {accepts : Builtin → Nat → Bool}

/-- A tighter phrase is one of the next looser kind. -/
theorem Derives.of_inner {category : Category} {tokens : List Token} {tree : Expr} {demand : Nat}
    (derives : Derives accepts category.inner tokens tree demand) :
    Derives accepts category tokens tree demand := by
  cases category with
  | chain link =>
      have chained := Derives.chain derives .done
      rwa [List.append_nil, Nat.max_zero] at chained
  | negation => exact .plain derives
  | comparison => exact .single derives
  | signed => exact .unsigned derives
  | power => exact .base derives
  | primary => exact derives

/-- A primary expression is a phrase of any kind. -/
theorem Derives.of_primary {tokens : List Token} {tree : Expr} {demand : Nat}
    (primary : Derives accepts .primary tokens tree demand) (category : Category) :
    Derives accepts category tokens tree demand := by
  have power : Derives accepts .power tokens tree demand := .of_inner primary
  have signed : Derives accepts .signed tokens tree demand := .of_inner power
  have product : Derives accepts (.chain .product) tokens tree demand := .of_inner signed
  have sum : Derives accepts (.chain .sum) tokens tree demand := .of_inner product
  have comparison : Derives accepts .comparison tokens tree demand := .of_inner sum
  have negation : Derives accepts .negation tokens tree demand := .of_inner comparison
  have conjunction : Derives accepts (.chain .conjunction) tokens tree demand :=
    .of_inner negation
  cases category with
  | chain link =>
      cases link with
      | disjunction => exact .of_inner conjunction
      | _ => assumption
  | _ => assumption

/-- A literal is a phrase of any kind. -/
theorem derives_literal {token : Token} {value : Value} (literal : Literal token value)
    (category : Category) : Derives accepts category [token] (.literal value) 0 :=
  .of_primary (.literal literal) category

/-- A phrase has a first token, and it is one with which phrases of its kind may start. -/
theorem Derives.exists_first {category : Category} {tokens : List Token} {tree : Expr}
    {demand : Nat} : Derives accepts category tokens tree demand →
    ∃ first rest, tokens = first :: rest ∧ category.startsWith first = true
  | .chain operand _ | .plain operand | .compare operand _ | .single operand
  | .unsigned operand | .power operand _ | .base operand => by
      obtain ⟨first, rest, rfl, starts⟩ := operand.exists_first
      exact ⟨first, _, rfl, Category.startsWith_of_inner starts⟩
  | .literal spelled => by cases spelled <;> exact ⟨_, _, rfl, rfl⟩
  | .not _ | .minus _ | .reference _ | .call _ _ _ | .list _ | .parentheses _ =>
      ⟨_, _, rfl, rfl⟩

/-! ## The tokens of a phrase -/

theorem Link.Joins.isFinish {link : Link} {token : Token} {join : Expr → Expr → Expr}
    (joins : link.Joins token join) : token.isFinish = false := by
  cases joins <;> rfl

theorem sign_isFinish (op : CompareOp) : (sign op).isFinish = false := by
  cases op <;> rfl

theorem Segments.unfinished {tokens : List Token} {segments : List Segment}
    (derives : Segments tokens segments) : ∀ token ∈ tokens, token.isFinish = false := by
  induction derives with
  | nil => nofun
  | cons names _ ih =>
      refine List.forall_mem_cons.mpr ⟨rfl, List.forall_mem_cons.mpr ⟨?_, ih⟩⟩
      cases names <;> rfl

mutual

/-- The end of the source is no token of a phrase. -/
theorem Derives.unfinished {category : Category} {tokens : List Token} {tree : Expr}
    {demand : Nat} : Derives accepts category tokens tree demand →
    ∀ token ∈ tokens, token.isFinish = false
  | .chain operand continues =>
      List.forall_mem_append.mpr ⟨operand.unfinished, continues.unfinished⟩
  | .not operand | .minus operand => List.forall_mem_cons.mpr ⟨rfl, operand.unfinished⟩
  | .plain operand | .single operand | .unsigned operand | .base operand => operand.unfinished
  | .compare first second => List.forall_mem_append.mpr ⟨first.unfinished,
      List.forall_mem_cons.mpr ⟨sign_isFinish _, second.unfinished⟩⟩
  | .power first second => List.forall_mem_append.mpr ⟨first.unfinished,
      List.forall_mem_cons.mpr ⟨rfl, second.unfinished⟩⟩
  | .literal literal => List.forall_mem_singleton.mpr (by cases literal <;> rfl)
  | .reference segments => List.forall_mem_cons.mpr ⟨rfl, segments.unfinished⟩
  | .call _ items _ => List.forall_mem_cons.mpr ⟨rfl, List.forall_mem_cons.mpr ⟨rfl,
      List.forall_mem_append.mpr ⟨items.unfinished, List.forall_mem_singleton.mpr rfl⟩⟩⟩
  | .list items => List.forall_mem_cons.mpr ⟨rfl,
      List.forall_mem_append.mpr ⟨items.unfinished, List.forall_mem_singleton.mpr rfl⟩⟩
  | .parentheses inside => List.forall_mem_cons.mpr ⟨rfl,
      List.forall_mem_append.mpr ⟨inside.unfinished, List.forall_mem_singleton.mpr rfl⟩⟩

theorem Continues.unfinished {link : Link} {count demand : Nat} {left tree : Expr}
    {tokens : List Token} : Continues accepts link count left tokens tree demand →
    ∀ token ∈ tokens, token.isFinish = false
  | .done => nofun
  | .more joins operand continues => List.forall_mem_cons.mpr ⟨joins.isFinish,
      List.forall_mem_append.mpr ⟨operand.unfinished, continues.unfinished⟩⟩

theorem Lists.unfinished {tokens : List Token} {trees : List Expr} {demand : Nat} :
    Lists accepts tokens trees demand → ∀ token ∈ tokens, token.isFinish = false
  | .last item => item.unfinished
  | .more item items => List.forall_mem_append.mpr ⟨item.unfinished,
      List.forall_mem_cons.mpr ⟨rfl, items.unfinished⟩⟩

theorem Encloses.unfinished {tokens : List Token} {trees : List Expr} {demand : Nat} :
    Encloses accepts tokens trees demand → ∀ token ∈ tokens, token.isFinish = false
  | .none => nofun
  | .some items => items.unfinished

end

/-! ## Tokens after a phrase -/

/-- How tightly a token binds to a phrase before it. A token that goes on with no phrase binds
with zero. -/
def tightness : Token → Nat
  | .or => 1
  | .and => 2
  | .equal | .notEqual | .less | .atMost | .greater | .atLeast => 3
  | .plus | .minus => 4
  | .star | .slash | .slashes | .percent => 5
  | .caret => 6
  | .dot | .openParen => 7
  | _ => 0

/-- How tightly the tokens that go on with a phrase of some kind bind at least. -/
def Category.tightness : Category → Nat
  | .chain .disjunction => 1
  | .chain .conjunction => 2
  | .negation | .comparison => 3
  | .chain .sum => 4
  | .chain .product => 5
  | .signed | .power => 6
  | .primary => 7

/-- A phrase of some kind does not go on with a token. -/
def Category.EndsBefore (category : Category) (token : Token) : Prop :=
  Grammar.tightness token < category.tightness

instance (category : Category) (token : Token) : Decidable (category.EndsBefore token) :=
  inferInstanceAs (Decidable (_ < _))

theorem Category.EndsBefore.inner {category : Category} {token : Token}
    (ends : category.EndsBefore token) : category.inner.EndsBefore token := by
  have tighter : category.tightness ≤ category.inner.tightness := by
    cases category with
    | chain link => cases link <;> decide
    | _ => decide
  exact Nat.lt_of_lt_of_le ends tighter

theorem Link.Joins.endsBefore {link : Link} {token : Token} {join : Expr → Expr → Expr}
    (joins : link.Joins token join) : link.operand.EndsBefore token := by
  cases joins <;> decide

/-! ## Closing tokens -/

/-- The tokens that close a list or a call, with the tests for them. -/
inductive Closer : (Token → Bool) → Token → Prop
  /-- The end of a call. -/
  | parenthesis : Closer Token.isCloseParen .closeParen
  /-- The end of a list. -/
  | bracket : Closer Token.isCloseBracket .closeBracket

variable {closes : Token → Bool} {close : Token}

theorem Closer.eq_true_iff (closer : Closer closes close) {token : Token} :
    closes token = true ↔ token = close := by
  constructor
  · intro found
    cases closer <;> cases token <;> first | rfl | cases found
  · rintro rfl
    cases closer <;> rfl

theorem Closer.isFinish (closer : Closer closes close) : close.isFinish = false := by
  cases closer <;> rfl

theorem Closer.not_startsWith (closer : Closer closes close) {token : Token}
    (starts : Category.expression.startsWith token = true) : closes token = false := by
  cases closer <;> cases token <;> first | rfl | cases starts

theorem Closer.endsBefore (closer : Closer closes close) :
    Category.expression.EndsBefore close := by
  cases closer <;> decide

end Grammar
end Assay
