import Assay.Proofs.Grammar.Exactness
import Mathlib.Tactic.Linarith
import Mathlib.Tactic.Ring

/-!
# How deep a tree can be

The demand of a derivation bounds the depth of its tree only where the way down does not go through
the left operand of an operator: a chain is read below levels that are opened one by one, but its
first operand, read before them, ends up below all its operators. Four kinds of chains and the
powers stand inside one another at no demand, so a tree may be deeper than its demand by about
twice the square of it, and some trees are.
-/

namespace Assay
namespace Expr

mutual

/-- The greatest number of operators, lists and calls on a way from the root to a leaf, where an
operator that is passed to its left operand counts as often as given. Comparisons do not count, nor
do lists and calls of nothing. -/
def nestingBy (weight : Nat) : Expr → Nat
  | .literal _ => 0
  | .reference _ => 0
  | .list items => nestingOfItems weight items
  | .unary _ operand => operand.nestingBy weight + 1
  | .binary _ left right => max (left.nestingBy weight + weight) (right.nestingBy weight + 1)
  | .compare _ left right => max (left.nestingBy weight) (right.nestingBy weight)
  | .logical _ left right => max (left.nestingBy weight + weight) (right.nestingBy weight + 1)
  | .call _ arguments => nestingOfItems weight arguments

/-- The nesting of a list or a call of some expressions. -/
def nestingOfItems (weight : Nat) : List Expr → Nat
  | [] => 0
  | item :: items => max (item.nestingBy weight + 1) (nestingOfItems weight items)

end

/-- The greatest number of operators, lists and calls on a way from the root to a leaf. -/
def nesting (tree : Expr) : Nat := tree.nestingBy 1

mutual

/-- No operator, list or call stands in the left operand of an operator. -/
def FlatLeft : Expr → Prop
  | .literal _ => True
  | .reference _ => True
  | .list items => FlatLeftAll items
  | .unary _ operand => operand.FlatLeft
  | .binary _ left right => left.nesting = 0 ∧ right.FlatLeft
  | .compare _ left right => left.FlatLeft ∧ right.FlatLeft
  | .logical _ left right => left.nesting = 0 ∧ right.FlatLeft
  | .call _ arguments => FlatLeftAll arguments

/-- No operator, list or call stands in a left operand in some expressions. -/
def FlatLeftAll : List Expr → Prop
  | [] => True
  | item :: items => item.FlatLeft ∧ FlatLeftAll items

end

mutual

/-- Where left operands are flat it makes no difference how often they count. -/
theorem FlatLeft.nesting_le : ∀ {tree : Expr}, tree.FlatLeft → tree.nesting ≤ tree.nestingBy 0
  | .literal _, _ => Nat.le_refl 0
  | .reference _, _ => Nat.le_refl 0
  | .list _, flat => FlatLeftAll.nestingOfItems_le flat
  | .unary _ _, flat => Nat.succ_le_succ (FlatLeft.nesting_le flat)
  | .binary _ _ _, ⟨left_flat, flat⟩ => by
      have right_le := FlatLeft.nesting_le flat
      rw [nesting] at left_flat right_le ⊢
      rw [nestingBy, nestingBy]
      omega
  | .compare _ _ _, ⟨flat_left, flat_right⟩ => by
      have left_le := FlatLeft.nesting_le flat_left
      have right_le := FlatLeft.nesting_le flat_right
      rw [nesting] at left_le right_le ⊢
      rw [nestingBy, nestingBy]
      omega
  | .logical _ _ _, ⟨left_flat, flat⟩ => by
      have right_le := FlatLeft.nesting_le flat
      rw [nesting] at left_flat right_le ⊢
      rw [nestingBy, nestingBy]
      omega
  | .call _ _, flat => FlatLeftAll.nestingOfItems_le flat

theorem FlatLeftAll.nestingOfItems_le : ∀ {items : List Expr}, FlatLeftAll items →
    nestingOfItems 1 items ≤ nestingOfItems 0 items
  | [], _ => Nat.le_refl 0
  | _ :: _, ⟨flat, rest_flat⟩ =>
      max_le_max (Nat.succ_le_succ (FlatLeft.nesting_le flat))
        (FlatLeftAll.nestingOfItems_le rest_flat)

end

end Expr

namespace Grammar

/-- The most operators that are passed to their left operands on a way through a phrase of some
kind and demand. -/
def Category.lefts : Category → Nat → Nat
  | .chain .disjunction, demand => demand * (2 * demand + 3)
  | .chain .conjunction, demand => demand * (2 * demand + 2)
  | .negation, demand => demand * (2 * demand + 1)
  | .comparison, demand => demand * (2 * demand + 1)
  | .chain .sum, demand => demand * (2 * demand + 1)
  | .chain .product, demand => demand * (2 * demand)
  | .signed, demand => demand * (2 * demand - 1)
  | .power, demand => demand * (2 * demand - 1)
  | .primary, demand => (demand - 1) * (2 * demand + 1)

theorem Category.lefts_mono (category : Category) {demand limit : Nat} (fits : demand ≤ limit) :
    category.lefts demand ≤ category.lefts limit := by
  cases category with
  | chain link => cases link <;> exact Nat.mul_le_mul (by omega) (by omega)
  | _ => exact Nat.mul_le_mul (by omega) (by omega)

theorem Category.lefts_chain (link : Link) (demand : Nat) :
    (Category.chain link).lefts demand = link.operand.lefts demand + demand := by
  cases link with
  | product =>
      cases demand with
      | zero => rfl
      | succ demand =>
          have less : 2 * (demand + 1) - 1 = 2 * demand + 1 := by omega
          simp only [lefts, Link.operand, less]
          ring
  | _ =>
      simp only [lefts, Link.operand]
      ring

theorem Category.lefts_inner (category : Category) (demand : Nat) :
    category.inner.lefts demand ≤ category.lefts demand := by
  cases category with
  | chain link =>
      rw [lefts_chain]
      exact Nat.le_add_right _ _
  | power =>
      cases demand with
      | zero => exact Nat.le_refl _
      | succ demand =>
          have less : 2 * (demand + 1) - 1 = 2 * demand + 1 := by omega
          simp only [inner, lefts, less, Nat.add_sub_cancel]
          nlinarith
  | _ => exact Nat.le_refl _

/-- One more operator may stand around the base of a power than around a primary expression. -/
theorem Category.lefts_primary_lt {demand : Nat} (opened : 0 < demand) :
    Category.primary.lefts demand + 1 = Category.power.lefts demand := by
  obtain ⟨demand, rfl⟩ := Nat.exists_eq_succ_of_ne_zero (Nat.ne_of_gt opened)
  have less : 2 * (demand + 1) - 1 = 2 * demand + 1 := by omega
  simp only [lefts, less, Nat.succ_eq_add_one, Nat.add_sub_cancel]
  ring

/-- The nesting that a phrase of some kind and demand has at most. -/
def Category.depth (category : Category) (weight demand : Nat) : Nat :=
  demand + weight * category.lefts demand

variable {category : Category} {link : Link} {weight demand limit : Nat}

theorem Category.depth_mono (fits : demand ≤ limit) :
    category.depth weight demand ≤ category.depth weight limit :=
  Nat.add_le_add fits (Nat.mul_le_mul_left weight (category.lefts_mono fits))

theorem Category.depth_lt (fits : demand < limit) :
    category.depth weight demand + 1 ≤ category.depth weight limit := by
  have less := Nat.mul_le_mul_left weight (category.lefts_mono (Nat.le_of_lt fits))
  rw [depth, depth]
  omega

theorem Category.depth_inner (category : Category) :
    category.inner.depth weight demand ≤ category.depth weight demand :=
  Nat.add_le_add_left (Nat.mul_le_mul_left weight (category.lefts_inner demand)) demand

theorem Category.depth_chain : (Category.chain link).depth weight demand =
    link.operand.depth weight demand + weight * demand := by
  rw [depth, depth, lefts_chain, Nat.mul_add, Nat.add_assoc]

theorem Category.depth_primary (opened : 0 < demand) :
    Category.primary.depth weight demand + weight = Category.power.depth weight demand := by
  rw [depth, depth, ← lefts_primary_lt opened, Nat.mul_add, Nat.mul_one, Nat.add_assoc]

/-- A primary expression opens one level around whole expressions. -/
theorem Category.depth_enclosed : Category.expression.depth weight demand + 1 =
    Category.primary.depth weight (demand + 1) := by
  have same : Category.primary.lefts (demand + 1) = Category.expression.lefts demand := by
    simp only [lefts, Nat.add_sub_cancel]
    ring
  rw [depth, depth, same]
  omega

theorem Link.Joins.nestingBy {token : Token} {join : Expr → Expr → Expr}
    (joins : link.Joins token join) (left right : Expr) :
    (join left right).nestingBy weight =
      max (left.nestingBy weight + weight) (right.nestingBy weight + 1) := by
  cases joins <;> rw [Expr.nestingBy]

variable {accepts : Builtin → Nat → Bool}

mutual

/-- The demand of a phrase bounds the nesting of its tree. -/
theorem Derives.nestingBy_le (weight : Nat) {category : Category} {tokens : List Token}
    {tree : Expr} {demand : Nat} : Derives accepts category tokens tree demand →
    tree.nestingBy weight ≤ category.depth weight demand
  | .chain operand continues => by
      rename_i link _ _ first demand rest
      have first_le : first.nestingBy weight ≤ link.operand.depth weight (max demand rest) :=
        (operand.nestingBy_le weight).trans (Category.depth_mono (Nat.le_max_left _ _))
      rw [Category.depth_chain]
      exact continues.nestingBy_le weight (Nat.le_max_right _ _) (Nat.zero_le _) first_le
  | .not operand => by
      rw [Expr.nestingBy]
      exact (Nat.succ_le_succ (operand.nestingBy_le weight)).trans
        (Category.depth_lt (Nat.lt_succ_self _))
  | .plain operand => (operand.nestingBy_le weight).trans (Category.depth_inner .negation)
  | .compare first second => by
      rw [Expr.nestingBy]
      exact Nat.max_le.mpr
        ⟨(first.nestingBy_le weight).trans (Category.depth_mono (Nat.le_max_left _ _)),
          (second.nestingBy_le weight).trans (Category.depth_mono (Nat.le_max_right _ _))⟩
  | .single operand => (operand.nestingBy_le weight).trans (Category.depth_inner .comparison)
  | .minus operand => by
      rw [Expr.nestingBy]
      exact (Nat.succ_le_succ (operand.nestingBy_le weight)).trans
        (Category.depth_lt (Nat.lt_succ_self _))
  | .unsigned operand => (operand.nestingBy_le weight).trans (Category.depth_inner .signed)
  | .power first second => by
      rename_i demand rest
      rw [Expr.nestingBy, ← Category.depth_primary (by omega)]
      refine Nat.max_le.mpr ⟨Nat.add_le_add_right ((first.nestingBy_le weight).trans
        (Category.depth_mono (Nat.le_max_left _ _))) weight, ?_⟩
      rw [Category.depth_primary (by omega)]
      exact (Nat.succ_le_succ (second.nestingBy_le weight)).trans (Category.depth_lt (by omega))
  | .base operand => (operand.nestingBy_le weight).trans (Category.depth_inner .power)
  | .literal _ => Nat.zero_le _
  | .reference _ => Nat.zero_le _
  | .call _ items _ => items.nestingOfItems_le weight
  | .list items => items.nestingOfItems_le weight
  | .parentheses inside => by
      rw [← Category.depth_enclosed]
      exact (inside.nestingBy_le weight).trans (Nat.le_succ _)

/-- The operators of a chain are no more than the levels that it may open. -/
theorem Continues.nestingBy_le (weight : Nat) {link : Link} {count : Nat} {left tree : Expr}
    {tokens : List Token} {demand limit : Nat} :
    Continues accepts link count left tokens tree demand → demand ≤ limit → count ≤ limit →
    left.nestingBy weight ≤ link.operand.depth weight limit + weight * count →
    tree.nestingBy weight ≤ link.operand.depth weight limit + weight * limit
  | .done, _, counted, left_le =>
      left_le.trans (Nat.add_le_add_left (Nat.mul_le_mul_left weight counted) _)
  | .more joins operand continues, fits, counted, left_le => by
      refine continues.nestingBy_le weight ((Nat.le_max_right _ _).trans fits) (by omega) ?_
      rw [joins.nestingBy, Nat.mul_succ, ← Nat.add_assoc]
      refine Nat.max_le.mpr ⟨Nat.add_le_add_right left_le weight, ?_⟩
      have right_le : _ + 1 ≤ link.operand.depth weight limit :=
        (Nat.succ_le_succ (operand.nestingBy_le weight)).trans (Category.depth_lt (by omega))
      omega

theorem Lists.nestingOfItems_le (weight : Nat) {tokens : List Token} {trees : List Expr}
    {demand : Nat} : Lists accepts tokens trees demand →
    Expr.nestingOfItems weight trees ≤ Category.primary.depth weight (demand + 1)
  | .last item => by
      rw [← Category.depth_enclosed]
      exact Nat.max_le.mpr ⟨Nat.succ_le_succ (item.nestingBy_le weight), Nat.zero_le _⟩
  | .more item items => by
      have item_le := Nat.succ_le_succ (item.nestingBy_le weight)
      rw [Nat.succ_eq_add_one, Nat.succ_eq_add_one, Category.depth_enclosed] at item_le
      exact Nat.max_le.mpr
        ⟨item_le.trans (Category.depth_mono (Nat.succ_le_succ (Nat.le_max_left _ _))),
          (items.nestingOfItems_le weight).trans
            (Category.depth_mono (Nat.succ_le_succ (Nat.le_max_right _ _)))⟩

theorem Encloses.nestingOfItems_le (weight : Nat) {tokens : List Token} {trees : List Expr}
    {demand : Nat} : Encloses accepts tokens trees demand →
    Expr.nestingOfItems weight trees ≤ Category.primary.depth weight demand
  | .none => Nat.zero_le _
  | .some items => items.nestingOfItems_le weight

end

/-- What is read is derived at a demand within the limit. -/
theorem exists_derives_of_read {source : String} {tree : Expr}
    (read : Expr.read source = .ok tree) :
    ∃ tokens, ∃ demand ≤ maxNesting, Derives Builtin.takes .expression tokens tree demand := by
  obtain ⟨lexemes, tokenized, run⟩ := Outcome.bind_eq_ok.mp read
  obtain ⟨tokens, _, spells⟩ := exists_spells tokenized
  exact ⟨tokens, derives_ofLexemes spells run⟩

/-- The limit bounds the operators, lists and calls on a way down that are not passed to a left
operand, and so the nesting where left operands are flat. In general the nesting stays below a
bound that grows with the square of the limit. -/
theorem nesting_le_of_read {source : String} {tree : Expr} (read : Expr.read source = .ok tree) :
    tree.nestingBy 0 ≤ maxNesting ∧ (tree.FlatLeft → tree.nesting ≤ maxNesting) ∧
      tree.nesting ≤ 2 * maxNesting * (maxNesting + 2) := by
  obtain ⟨tokens, demand, fits, derives⟩ := exists_derives_of_read read
  have aside : tree.nestingBy 0 ≤ maxNesting := by
    have bound := (derives.nestingBy_le 0).trans (Category.depth_mono fits)
    rwa [Category.depth, Nat.zero_mul, Nat.add_zero] at bound
  refine ⟨aside, fun flat => flat.nesting_le.trans aside, ?_⟩
  exact (derives.nestingBy_le 1).trans (Category.depth_mono fits)

/-- Sixty-four minus signs before the first operand of a sum. -/
def minusSigns : String := String.ofList (List.replicate 64 '-' ++ "1+1".toList)

/-- The tree of the sum. -/
def minusTree : Expr :=
  .binary .add ((Expr.unary .negate)^[64] (.literal (.int 1))) (.literal (.int 1))

set_option maxRecDepth 10000 in
theorem read_minusSigns : Expr.read minusSigns = .ok minusTree := by with_unfolding_all rfl

/-- The minus signs open every level there is, and the sum stands above them in the tree. -/
theorem nesting_le_of_read_minusSigns :
    minusTree.nestingBy 0 = maxNesting ∧
      minusTree.nesting ≤ 2 * maxNesting * (maxNesting + 2) :=
  ⟨by decide, (nesting_le_of_read read_minusSigns).2.2⟩

/-- An expression that is read has a way down through more nodes than levels may be open. -/
theorem exists_read_nesting_gt :
    Expr.read minusSigns = .ok minusTree ∧ minusTree.nesting = maxNesting + 1 :=
  ⟨read_minusSigns, by decide⟩

/-! ## The bound is reached -/

variable {tokens : List Token} {tree : Expr}

theorem Link.exists_joins (link : Link) : ∃ token join, link.Joins token join := by
  cases link with
  | disjunction => exact ⟨_, _, .or⟩
  | conjunction => exact ⟨_, _, .and⟩
  | sum => exact ⟨_, _, .add⟩
  | product => exact ⟨_, _, .multiply⟩

/-- Each operator of a chain puts one more node above its first operand. -/
theorem exists_continues (link : Link) (more count : Nat) (left : Expr) :
    ∃ tokens tree demand, Continues accepts link count left tokens tree demand ∧
      demand ≤ count + more ∧ tree.nesting = left.nesting + more := by
  induction more generalizing count left with
  | zero => exact ⟨[], left, 0, .done, Nat.zero_le _, rfl⟩
  | succ more ih =>
      obtain ⟨token, join, joins⟩ := link.exists_joins
      have operand : Derives accepts link.operand [.truth true] (.literal (.bool true)) 0 :=
        derives_literal (.truth true) link.operand
      obtain ⟨tokens, tree, demand, continues, fits, nesting_eq⟩ :=
        ih (count + 1) (join left (.literal (.bool true)))
      refine ⟨_, tree, _, .more joins operand continues, by omega, ?_⟩
      have joined : (join left (.literal (.bool true))).nestingBy 1 =
          max (left.nestingBy 1 + 1) (Expr.nestingBy 1 (.literal (.bool true)) + 1) :=
        joins.nestingBy left _
      rw [Expr.nestingBy] at joined
      rw [nesting_eq, Expr.nesting, joined, Expr.nesting]
      omega

/-- A chain may have as many operators as levels are open in its first operand anyway. -/
theorem exists_chain (link : Link) (derives : Derives accepts link.operand tokens tree demand) :
    ∃ others wider, Derives accepts (.chain link) others wider demand ∧
      wider.nesting = tree.nesting + demand := by
  obtain ⟨back, wider, rest, continues, fits, nesting_eq⟩ := exists_continues link demand 0 tree
  refine ⟨tokens ++ back, wider, ?_, nesting_eq⟩
  have chained := Derives.chain derives continues
  rwa [Nat.max_eq_left (by omega)] at chained

/-- One level more allows for a list, a power and a chain of each kind around an expression. -/
theorem exists_enclosing (derives : Derives accepts .expression tokens tree demand) :
    ∃ others wider, Derives accepts .expression others wider (demand + 1) ∧
      wider.nesting = tree.nesting + 2 + 4 * (demand + 1) := by
  have list : Derives accepts .primary _ _ _ := .list (.some (.last derives))
  have raised := Derives.power list (derives_literal (.truth true) .signed)
  rw [Nat.max_eq_left (by omega)] at raised
  have raised_nesting : (Expr.binary .power (.list [tree]) (.literal (.bool true))).nesting =
      tree.nesting + 2 := by
    rw [Expr.nesting, Expr.nesting]
    simp only [Expr.nestingBy, Expr.nestingOfItems]
    omega
  obtain ⟨_, product, derives, product_nesting⟩ := exists_chain .product (Derives.unsigned raised)
  obtain ⟨_, sum, derives, sum_nesting⟩ := exists_chain .sum derives
  obtain ⟨_, conjunction, derives, conjunction_nesting⟩ :=
    exists_chain .conjunction (.plain (.single derives))
  obtain ⟨_, disjunction, derives, disjunction_nesting⟩ := exists_chain .disjunction derives
  exact ⟨_, disjunction, derives, by omega⟩

theorem exists_nesting_eq (demand : Nat) : ∃ tokens tree,
    Derives accepts .expression tokens tree demand ∧
      tree.nesting = 2 * demand * (demand + 2) := by
  induction demand with
  | zero => exact ⟨_, _, derives_literal (.truth true) .expression, rfl⟩
  | succ demand ih =>
      obtain ⟨tokens, tree, derives, nesting_eq⟩ := ih
      obtain ⟨others, wider, derives_wider, wider_nesting⟩ := exists_enclosing derives
      refine ⟨others, wider, derives_wider, ?_⟩
      rw [wider_nesting, nesting_eq]
      ring

/-- A tree that is read may be as deep as the bound allows. -/
theorem exists_ofLexemes_nesting_eq : ∃ lexemes tree, Expr.ofLexemes lexemes = .ok tree ∧
    tree.nesting = 2 * maxNesting * (maxNesting + 2) := by
  obtain ⟨tokens, tree, derives, nesting_eq⟩ : ∃ tokens tree,
      Derives Builtin.takes .expression tokens tree maxNesting ∧
        tree.nesting = 2 * maxNesting * (maxNesting + 2) := exists_nesting_eq maxNesting
  have unfinished : ∀ lexeme ∈ lexemesOf tokens, lexeme.token.isFinish = false := by
    intro lexeme mem
    refine derives.unfinished lexeme.token ?_
    rw [← @map_token_lexemesOf tokens]
    exact List.mem_map_of_mem mem
  let last : Lexeme := ⟨.finish, 0, []⟩
  have spells := spells_of_finish unfinished (rfl : last.token.isFinish = true) []
  rw [map_token_lexemesOf] at spells
  exact ⟨_, tree, (settles_ofLexemes spells derives).1 (Nat.le_refl _), nesting_eq⟩

end Grammar
end Assay
