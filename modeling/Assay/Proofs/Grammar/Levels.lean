import Assay.Expr.Parser
import Assay.Proofs.Grammar

/-!
# Induction on levels

The productions of a level are built from those of the next one. A property of productions that
every way of building them keeps therefore holds on all levels.
-/

namespace Assay
namespace Level

/-- The level that is built of some number of levels, on top of the one that reads nothing. -/
def ofLevels : Nat → Level
  | 0 => floor
  | levels + 1 => (ofLevels levels).above

theorem withRoom_eq_ofLevels (room : Nat) : withRoom room = ofLevels (room + 1) := by
  induction room with
  | zero => rfl
  | succ room ih =>
      rw [withRoom, ih]
      rfl

end Level

namespace Grammar

open Assay.Parser

/-- The operators that the parser looks for in a chain. -/
def Link.joint? : Link → Joint
  | .disjunction => disjunct?
  | .conjunction => conjunct?
  | .sum => term?
  | .product => factor?

theorem Link.joint?_eq_some_iff {link : Link} {token : Token} {join : Expr → Expr → Expr} :
    link.joint? token = some join ↔ link.Joins token join := by
  constructor
  · intro found
    cases link <;> cases token <;> cases found <;> constructor
  · rintro ⟨⟩ <;> rfl

/-- The production for phrases of a kind, built from the productions of the next level. -/
def production (deeper : Level) : Category → Production Expr
  | .chain .disjunction => Parser.expression deeper
  | .chain .conjunction => Parser.conjunction deeper
  | .chain .sum => Parser.sum deeper
  | .chain .product => Parser.product deeper
  | .negation => Parser.negation deeper
  | .comparison => Parser.comparison deeper
  | .signed => Parser.signed deeper
  | .power => Parser.power deeper
  | .primary => Parser.primary deeper

/-- The productions of a level have a property that depends on the phrases they read. Those that
read on in a chain have another one. -/
structure Holds (P : Category → Production Expr → Prop)
    (Q : Link → (Nat → Expr → Production Expr) → Prop) (level : Level) : Prop where
  expression : P .expression level.expression
  conjunction : P (.chain .conjunction) level.conjunction
  negation : P .negation level.negation
  product : P (.chain .product) level.product
  signed : P .signed level.signed
  moreDisjuncts : Q .disjunction level.moreDisjuncts
  moreConjuncts : Q .conjunction level.moreConjuncts
  moreTerms : Q .sum level.moreTerms
  moreFactors : Q .product level.moreFactors

/-- Properties of the productions above some number of levels that every way of building
productions keeps. -/
structure Hereditary (P : Nat → Category → Production Expr → Prop)
    (Q : Nat → Link → (Nat → Expr → Production Expr) → Prop) : Prop where
  refuse {category : Category} : P 0 category fun cursor => .error cursor.tooDeep
  refuseTail {link : Link} : Q 0 link fun _ _ cursor => .error cursor.tooDeep
  chain {levels : Nat} {link : Link} {operand : Production Expr}
    {more : Nat → Expr → Production Expr} (first : P (levels + 1) link.operand operand)
    (tail : Q (levels + 1) link more) :
    P (levels + 1) (.chain link) (Parser.chain operand more)
  chainTail {levels : Nat} {link : Link} {operand : Production Expr}
    {more : Nat → Expr → Production Expr} (first : P levels link.operand operand)
    (tail : Q levels link more) :
    Q (levels + 1) link (Parser.chainTail link.joint? operand more)
  primary {levels : Nat} {deeper : Level} (inside : P levels .expression deeper.expression) :
    P (levels + 1) .primary (Parser.primary deeper)
  power {levels : Nat} {deeper : Level} (base : P (levels + 1) .primary (Parser.primary deeper))
    (exponent : P levels .signed deeper.signed) : P (levels + 1) .power (Parser.power deeper)
  signed {levels : Nat} {deeper : Level} (unsigned : P (levels + 1) .power (Parser.power deeper))
    (operand : P levels .signed deeper.signed) : P (levels + 1) .signed (Parser.signed deeper)
  comparison {levels : Nat} {deeper : Level}
    (sum : P (levels + 1) (.chain .sum) (Parser.sum deeper)) :
    P (levels + 1) .comparison (Parser.comparison deeper)
  negation {levels : Nat} {deeper : Level}
    (plain : P (levels + 1) .comparison (Parser.comparison deeper))
    (operand : P levels .negation deeper.negation) :
    P (levels + 1) .negation (Parser.negation deeper)

namespace Hereditary

variable {P : Nat → Category → Production Expr → Prop}
  {Q : Nat → Link → (Nat → Expr → Production Expr) → Prop} {levels : Nat} {deeper : Level}

theorem floor (hereditary : Hereditary P Q) : Holds (P 0) (Q 0) Level.floor where
  expression := hereditary.refuse
  conjunction := hereditary.refuse
  negation := hereditary.refuse
  product := hereditary.refuse
  signed := hereditary.refuse
  moreDisjuncts := hereditary.refuseTail
  moreConjuncts := hereditary.refuseTail
  moreTerms := hereditary.refuseTail
  moreFactors := hereditary.refuseTail

/-- Every production built from those of a level has the property above that level. -/
theorem production (hereditary : Hereditary P Q) (below : Holds (P levels) (Q levels) deeper)
    (category : Category) : P (levels + 1) category (Grammar.production deeper category) := by
  have primary := hereditary.primary below.expression
  have power := hereditary.power primary below.signed
  have signed := hereditary.signed power below.signed
  have product : P (levels + 1) (.chain .product) (Parser.product deeper) :=
    hereditary.chain signed (hereditary.chainTail below.signed below.moreFactors)
  have sum : P (levels + 1) (.chain .sum) (Parser.sum deeper) :=
    hereditary.chain product (hereditary.chainTail below.product below.moreTerms)
  have comparison := hereditary.comparison sum
  have negation := hereditary.negation comparison below.negation
  have conjunction : P (levels + 1) (.chain .conjunction) (Parser.conjunction deeper) :=
    hereditary.chain negation (hereditary.chainTail below.negation below.moreConjuncts)
  have expression : P (levels + 1) .expression (Parser.expression deeper) :=
    hereditary.chain conjunction (hereditary.chainTail below.conjunction below.moreDisjuncts)
  cases category with
  | chain link => cases link <;> assumption
  | _ => assumption

theorem above (hereditary : Hereditary P Q) (below : Holds (P levels) (Q levels) deeper) :
    Holds (P (levels + 1)) (Q (levels + 1)) deeper.above where
  expression := hereditary.production below .expression
  conjunction := hereditary.production below (.chain .conjunction)
  negation := hereditary.production below .negation
  product := hereditary.production below (.chain .product)
  signed := hereditary.production below .signed
  moreDisjuncts := hereditary.chainTail below.conjunction below.moreDisjuncts
  moreConjuncts := hereditary.chainTail below.negation below.moreConjuncts
  moreTerms := hereditary.chainTail below.product below.moreTerms
  moreFactors := hereditary.chainTail below.signed below.moreFactors

theorem ofLevels (hereditary : Hereditary P Q) (levels : Nat) :
    Holds (P levels) (Q levels) (Level.ofLevels levels) := by
  induction levels with
  | zero => exact hereditary.floor
  | succ levels ih => exact hereditary.above ih

theorem withRoom (hereditary : Hereditary P Q) (room : Nat) :
    Holds (P (room + 1)) (Q (room + 1)) (Level.withRoom room) := by
  rw [Level.withRoom_eq_ofLevels]
  exact hereditary.ofLevels (room + 1)

end Hereditary

end Grammar
end Assay
