import Assay.Proofs.Grammar.Soundness

/-!
# What is derived is read

Each production reads a phrase of its kind wherever the phrase stands and ends, if the phrase
demands fewer levels than the production is built of, and else fails for having too many levels
open. In a language whose functions accept other numbers of arguments, it may also fail for the
number of arguments of a call, but for nothing else.
-/

namespace Assay
namespace Grammar

open Assay.Parser Cursor

/-- An action gives a result if something fits, and else it finds too many levels open. -/
def Settles {α : Type} (fits : Prop) (action : Except SyntaxFault α) (result : α) : Prop :=
  (fits → action = .ok result) ∧ (¬fits → ∃ place : Cursor, action = .error place.tooDeep)

/-- An action gives a result, or it fails for the number of arguments of a call or of open
levels. -/
def Limits {α : Type} (action : Except SyntaxFault α) (result : α) : Prop :=
  action = .ok result ∨ ∃ fault, action = .error fault ∧
    (fault.expected = .arity ∨ fault.expected = .shallower)

/-- An action gives a result as far as the limits allow. Only the number of levels matters in a
language whose functions accept what the built-in ones take. -/
structure Resolves (accepts : Builtin → Nat → Bool) {α : Type} (fits : Prop)
    (action : Except SyntaxFault α) (result : α) : Prop where
  settles : accepts = Builtin.takes → Settles fits action result
  limits : Limits action result

variable {accepts : Builtin → Nat → Bool}

section

variable {α β : Type} {p q : Prop} {action : Except SyntaxFault α}
  {next : α → Except SyntaxFault β} {value : α} {result : β}

theorem Limits.bind (first : Limits action value) (second : Limits (next value) result) :
    Limits (action >>= next) result := by
  rcases first with rfl | ⟨fault, rfl, exceeded⟩
  · exact second
  · exact .inr ⟨fault, rfl, exceeded⟩

theorem Settles.bind (first : Settles p action value) (second : Settles q (next value) result) :
    Settles (p ∧ q) (action >>= next) result := by
  constructor
  · rintro ⟨fits, fits_next⟩
    rw [first.1 fits]
    exact second.1 fits_next
  · intro fails
    by_cases fits : p
    · rw [first.1 fits]
      exact second.2 fun fits_next => fails ⟨fits, fits_next⟩
    · obtain ⟨place, failed⟩ := first.2 fits
      exact ⟨place, by rw [failed]; rfl⟩

theorem resolves_ok (holds : p) : Resolves accepts p (.ok value) value :=
  ⟨fun _ => ⟨fun _ => rfl, fun fails => absurd holds fails⟩, .inl rfl⟩

theorem resolves_tooDeep {place : Cursor} (fails : ¬p) :
    Resolves accepts p (.error place.tooDeep) value :=
  ⟨fun _ => ⟨fun holds => absurd holds fails, fun _ => ⟨place, rfl⟩⟩, .inr ⟨_, rfl, .inr rfl⟩⟩

theorem Resolves.bind (first : Resolves accepts p action value)
    (second : Resolves accepts q (next value) result) :
    Resolves accepts (p ∧ q) (action >>= next) result :=
  ⟨fun strict => (first.settles strict).bind (second.settles strict),
    first.limits.bind second.limits⟩

theorem Resolves.of_iff (resolves : Resolves accepts p action value) (same : p ↔ q) :
    Resolves accepts q action value := by
  rwa [← propext same]

/-- What comes after an action may succeed in any case. -/
theorem Resolves.bind_ok (first : Resolves accepts p action value)
    (second : next value = .ok result) : Resolves accepts p (action >>= next) result := by
  have resolves : Resolves accepts True (next value) result := by
    rw [second]
    exact resolves_ok trivial
  exact (first.bind resolves).of_iff (and_iff_left trivial)

end

theorem resolves_enter {levels : Nat} {cursor : Cursor} (budget : cursor.HasLevels (levels + 1)) :
    Resolves accepts (0 < levels) cursor.enter cursor.opened := by
  rw [HasLevels] at budget
  rw [enter_eq]
  split
  · exact resolves_ok (by omega)
  · exact resolves_tooDeep (by omega)

/-- A production reads the phrases of a kind that demand fewer than some number of levels, and
finds too many levels open in those that demand more. -/
def Complete (accepts : Builtin → Nat → Bool) (levels : Nat) (category : Category)
    (production : Production Expr) : Prop :=
  ∀ ⦃before after : Cursor⦄ ⦃tokens : List Token⦄ ⦃tree : Expr⦄ ⦃demand : Nat⦄,
    before.HasLevels levels →
    Derives accepts category tokens tree demand → before.Passes tokens after →
    category.EndsBefore after.token →
    Resolves accepts (demand < levels) (production before) (tree, after)

/-- A production reads on in chains of a kind, with some levels open for the operators before. The
production for no levels reads nothing. -/
def CompleteTail (accepts : Builtin → Nat → Bool) (levels : Nat) (link : Link)
    (more : Nat → Expr → Production Expr) : Prop :=
  ∀ ⦃before after : Cursor⦄ ⦃count : Nat⦄ ⦃tokens : List Token⦄ ⦃left tree : Expr⦄ ⦃demand : Nat⦄,
    before.HasLevels levels →
    Continues accepts link count left tokens tree demand → before.Passes tokens after →
    (Category.chain link).EndsBefore after.token →
    Resolves accepts (0 < levels ∧ demand < levels + count) (more count left before)
      (tree, after.leave count)

variable {levels : Nat} {deeper : Level} {before after : Cursor} {tokens : List Token}

/-! ## Chains -/

theorem Link.Joins.not_endsBefore {link : Link} {token : Token} {join : Expr → Expr → Expr}
    (joins : link.Joins token join) : ¬(Category.chain link).EndsBefore token := by
  cases joins <;> decide

/-- An operand ends before what follows it in a chain. -/
theorem Continues.endsBefore {link : Link} {count demand : Nat} {left tree : Expr}
    (continues : Continues accepts link count left tokens tree demand)
    (passes : before.Passes tokens after) (ends : (Category.chain link).EndsBefore after.token) :
    link.operand.EndsBefore before.token := by
  cases continues with
  | done =>
      rw [passes_nil.mp passes]
      exact ends.inner
  | more joins _ _ =>
      rw [passes.1]
      exact joins.endsBefore

theorem Complete.chain {link : Link} {operand : Production Expr}
    {more : Nat → Expr → Production Expr}
    (first : Complete accepts (levels + 1) link.operand operand)
    (tail : CompleteTail accepts (levels + 1) link more) :
    Complete accepts (levels + 1) (.chain link) (Parser.chain operand more) := by
  intro before after tokens tree demand budget derives passes ends
  cases derives with
  | chain derives continues =>
      obtain ⟨middle, passes_first, passes_more⟩ := passes_append.mp passes
      have resolves_first :=
        first budget derives passes_first (continues.endsBefore passes_more ends)
      have resolves_more := tail (budget.passes passes_first) continues passes_more ends
      exact (resolves_first.bind resolves_more).of_iff (by omega)

theorem CompleteTail.chainTail {link : Link} {operand : Production Expr}
    {more : Nat → Expr → Production Expr} (first : Complete accepts levels link.operand operand)
    (tail : CompleteTail accepts levels link more) :
    CompleteTail accepts (levels + 1) link (Parser.chainTail link.joint? operand more) := by
  intro before after count tokens left tree demand budget continues passes ends
  cases continues with
  | done =>
      rw [← passes_nil.mp passes] at ends ⊢
      have ended : link.joint? before.token = none := by
        rw [Option.eq_none_iff_forall_ne_some]
        intro join found
        exact (Link.joint?_eq_some_iff.mp found).not_endsBefore ends
      rw [Parser.chainTail, ended]
      exact resolves_ok (by omega)
  | more joins derives continues =>
      obtain ⟨stands, _, passes⟩ := passes
      obtain ⟨middle, passes_operand, passes_more⟩ := passes_append.mp passes
      have resolves_operand := first budget.advance.opened derives passes_operand.opened
        (continues.endsBefore passes_more.opened ends)
      have resolves_more :=
        tail (budget.advance.passes passes_operand).opened continues passes_more.opened ends
      rw [leave_opened] at resolves_more
      rw [Parser.chainTail, stands, Link.joint?_eq_some_iff.mpr joins]
      exact ((resolves_enter budget.advance).bind (resolves_operand.bind resolves_more)).of_iff
        (by omega)

/-! ## Primary expressions -/

theorem Names.segment? {token : Token} {segment : Segment} (names : Names token segment) :
    Parser.segment? token = some segment := by
  cases names with
  | field name => rfl
  | wildcard => rfl
  | index value => simp [Parser.segment?, value]

/-- The segments of a reference are read up to a token that is no point. -/
theorem Segments.path {segments : List Segment} (derives : Segments tokens segments)
    (passes : before.Passes tokens after) (ends : Category.primary.EndsBefore after.token) :
    Parser.path before.index before.depth before.limit before.rest = .ok (segments, after) := by
  have point : ¬Category.primary.EndsBefore .dot := by decide
  induction derives generalizing before with
  | nil =>
      rw [← passes_nil.mp passes] at ends ⊢
      unfold Parser.path
      split
      · rename_i rest_eq
        rw [token, lexeme, rest_eq] at ends
        exact absurd ends point
      · rfl
  | cons names _ ih =>
      obtain ⟨lexemes, index, depth, limit⟩ := before
      obtain ⟨_, _, _, rfl, passes_segment⟩ := passes.exists_rest
      obtain ⟨_, _, rest, rfl, passes_rest⟩ := passes_segment.exists_rest
      rw [Parser.path, names.segment?]
      dsimp only
      rw [ih passes_rest]
      rfl

theorem Derives.startsWith {category : Category} {tree : Expr} {demand : Nat}
    (derives : Derives accepts category tokens tree demand)
    (passes : before.Passes tokens after) : category.startsWith before.token = true := by
  obtain ⟨first, rest, rfl, starts⟩ := derives.exists_first
  rw [passes.1]
  exact starts

theorem Lists.startsWith {trees : List Expr} {demand : Nat}
    (lists : Lists accepts tokens trees demand) (passes : before.Passes tokens after) :
    Category.expression.startsWith before.token = true := by
  cases lists with
  | last derives => exact derives.startsWith passes
  | more derives _ =>
      obtain ⟨middle, passes_item, _⟩ := passes_append.mp passes
      exact derives.startsWith passes_item

theorem Complete.moreItems {production : Production Expr} {closes : Token → Bool} {close : Token}
    (closer : Closer closes close) (complete : Complete accepts levels .expression production)
    (expected : Expected) {fuel demand : Nat} {trees : List Expr}
    (budget : before.HasLevels levels)
    (lists : Lists accepts tokens trees demand)
    (passes : before.Passes (tokens ++ [close]) after) (enough : tokens.length < fuel) :
    Resolves accepts (demand < levels) (moreItems production closes expected fuel before)
      (trees, after.leave 1) := by
  -- Every item takes a token, so the fuel outlasts the tokens.
  induction fuel generalizing before tokens trees demand with
  | zero => cases enough
  | succ fuel ih =>
      cases lists with
      | last derives =>
          obtain ⟨middle, passes_item, stands, _, rfl⟩ := passes_append.mp passes
          have resolves_item :=
            complete budget derives passes_item (by rw [stands]; exact closer.endsBefore)
          refine resolves_item.bind_ok ?_
          dsimp only
          rw [stands]
          cases closer <;> rfl
      | more derives lists =>
          rename_i front back item items demand rest
          rw [List.append_assoc] at passes
          obtain ⟨middle, passes_item, stands, _, passes_items⟩ := passes_append.mp passes
          have resolves_item := complete budget derives passes_item (by rw [stands]; decide)
          have fewer : back.length < fuel := by
            rw [List.length_append, List.length_cons] at enough
            omega
          have resolves_items :=
            ih (budget.passes passes_item).advance lists passes_items fewer
          refine (resolves_item.bind (q := rest < levels) ?_).of_iff (by omega)
          dsimp only
          rw [stands]
          exact resolves_items.bind_ok rfl

theorem Complete.items {closes : Token → Bool} {close : Token} (closer : Closer closes close)
    (complete : Complete accepts levels .expression deeper.expression) (expected : Expected)
    {demand : Nat} {trees : List Expr} (budget : before.HasLevels (levels + 1))
    (encloses : Encloses accepts tokens trees demand)
    (passes : before.Passes (tokens ++ [close]) after) :
    Resolves accepts (demand < levels + 1) (items deeper closes expected before)
      (trees, after) := by
  rw [Parser.items]
  cases encloses with
  | none =>
      obtain ⟨stands, _, rfl⟩ := passes
      rw [if_pos (closer.eq_true_iff.mpr stands)]
      exact resolves_ok (by omega)
  | some lists =>
      rename_i demand
      obtain ⟨middle, passes_items, _⟩ := passes_append.mp passes
      have opens := closer.not_startsWith (lists.startsWith passes_items)
      have enough : tokens.length < before.opened.rest.length := by
        have length_eq := passes.opened.length
        simp only [List.length_append, List.length_singleton] at length_eq
        omega
      have resolves_items :=
        complete.moreItems closer expected budget.opened lists passes.opened enough
      rw [leave_opened, leave_zero] at resolves_items
      rw [if_neg (by simp [opens])]
      refine ((resolves_enter budget).bind (q := demand < levels) ?_).of_iff (by omega)
      exact resolves_items

theorem Complete.named (complete : Complete accepts levels .expression deeper.expression)
    {name : String} {demand : Nat} {tree : Expr} (budget : before.HasLevels (levels + 1))
    (derives : Derives accepts .primary (.name name :: tokens) tree demand)
    (passes : before.advance.Passes tokens after)
    (ends : Category.primary.EndsBefore after.token) :
    Resolves accepts (demand < levels + 1) (named deeper name before) (tree, after) := by
  rw [Parser.named]
  cases derives with
  | literal literal => cases literal
  | reference segments =>
      have opens : before.advance.token ≠ .openParen := by
        intro opens
        cases segments with
        | nil =>
            rw [← passes_nil.mp passes, opens] at ends
            exact absurd ends (by decide)
        | cons _ _ => cases opens.symm.trans passes.1
      split
      · contradiction
      · rw [segments.path passes ends]
        exact resolves_ok (by omega)
  | call known items accepted =>
      obtain ⟨stands, _, passes⟩ := passes
      rw [stands, known]
      have resolves_items :=
        complete.items .parenthesis .argumentSeparator budget.advance.advance items passes
      refine (resolves_items.bind (q := True) ?_).of_iff (and_iff_left trivial)
      dsimp only
      split
      · exact resolves_ok trivial
      · rename_i refused
        exact ⟨fun strict => absurd (strict ▸ accepted) refused, .inr ⟨_, rfl, .inl rfl⟩⟩

theorem Complete.primary (complete : Complete accepts levels .expression deeper.expression) :
    Complete accepts (levels + 1) .primary (primary deeper) := by
  intro before after tokens tree demand budget derives passes ends
  rw [Parser.primary]
  cases derives with
  | literal literal =>
      obtain ⟨stands, _, rfl⟩ := passes
      rw [stands]
      cases literal <;> exact resolves_ok (by omega)
  | reference segments =>
      obtain ⟨stands, _, passes⟩ := passes
      rw [stands]
      exact complete.named budget (.reference segments) passes ends
  | call known items accepted =>
      obtain ⟨stands, _, passes⟩ := passes
      rw [stands]
      exact complete.named budget (.call known items accepted) passes ends
  | list items =>
      obtain ⟨stands, _, passes⟩ := passes
      rw [stands]
      exact (complete.items .bracket .listSeparator budget.advance items passes).bind_ok rfl
  | parentheses inside =>
      obtain ⟨stands, _, passes⟩ := passes
      obtain ⟨middle, passes_inside, closed, _, rfl⟩ := passes_append.mp passes
      have resolves_inside := complete budget.advance.opened inside passes_inside.opened
        (by rw [token_opened, closed]; decide)
      rw [stands]
      refine ((resolves_enter budget.advance).bind (resolves_inside.bind_ok ?_)).of_iff (by omega)
      dsimp only
      rw [token_opened, closed, advance_opened, leave_opened]
      rfl

/-! ## Operators -/

/-- What stands one level down is read there if it fits below. -/
theorem Complete.nested {category : Category} {production : Production Expr}
    (complete : Complete accepts levels category production) {wrap : Expr → Expr} {demand : Nat}
    {tree : Expr} (budget : before.HasLevels (levels + 1))
    (derives : Derives accepts category tokens tree demand)
    (passes : before.Passes tokens after) (ends : category.EndsBefore after.token) :
    Resolves accepts (demand < levels) (do
      let inside ← before.enter
      let (operand, last) ← production inside
      return (wrap operand, last.leave 1)) (wrap tree, after) := by
  have resolves := complete budget.opened derives passes.opened ends
  refine ((resolves_enter budget).bind (resolves.bind_ok ?_)).of_iff (by omega)
  rfl

theorem Complete.power (base : Complete accepts (levels + 1) .primary (Parser.primary deeper))
    (exponent : Complete accepts levels .signed deeper.signed) :
    Complete accepts (levels + 1) .power (power deeper) := by
  intro before after tokens tree demand budget derives passes ends
  cases derives with
  | power derives derives_exponent =>
      rename_i rest
      obtain ⟨middle, passes_base, stands, _, passes_exponent⟩ := passes_append.mp passes
      have resolves_base := base budget derives passes_base (by rw [stands]; decide)
      refine (resolves_base.bind (q := rest < levels) ?_).of_iff (by omega)
      dsimp only
      rw [stands]
      exact exponent.nested (budget.passes passes_base).advance derives_exponent passes_exponent
        ends
  | base derives =>
      refine (base budget derives passes ends.inner).bind_ok ?_
      dsimp only
      split
      · rename_i raised
        rw [raised] at ends
        exact absurd ends (by decide)
      · rfl

theorem Complete.signed (unsigned : Complete accepts (levels + 1) .power (Parser.power deeper))
    (operand : Complete accepts levels .signed deeper.signed) :
    Complete accepts (levels + 1) .signed (signed deeper) := by
  intro before after tokens tree demand budget derives passes ends
  rw [Parser.signed]
  cases derives with
  | minus derives =>
      obtain ⟨stands, _, passes⟩ := passes
      rw [stands]
      exact (operand.nested budget.advance derives passes ends).of_iff (by omega)
  | unsigned derives =>
      have starts := derives.startsWith passes
      split
      · rename_i stands
        rw [stands] at starts
        cases starts
      · exact unsigned budget derives passes ends.inner

theorem Complete.comparison
    (sum : Complete accepts (levels + 1) (.chain .sum) (Parser.sum deeper)) :
    Complete accepts (levels + 1) .comparison (comparison deeper) := by
  intro before after tokens tree demand budget derives passes ends
  cases derives with
  | compare first second =>
      rename_i op front back left right demand rest
      obtain ⟨middle, passes_first, stands, _, passes_second⟩ := passes_append.mp passes
      have resolves_first := sum budget first passes_first (by rw [stands]; cases op <;> decide)
      have resolves_second :=
        sum (budget.passes passes_first).advance second passes_second ends.inner
      refine (resolves_first.bind (q := rest < levels + 1) ?_).of_iff (by omega)
      dsimp only
      rw [stands]
      cases op <;> exact resolves_second.bind_ok rfl
  | single derives =>
      refine (sum budget derives passes ends.inner).bind_ok ?_
      dsimp only
      split
      · rename_i op found
        rw [comparison?_eq_some found] at ends
        cases op <;> exact absurd ends (by decide)
      · rfl

theorem Complete.negation
    (plain : Complete accepts (levels + 1) .comparison (Parser.comparison deeper))
    (operand : Complete accepts levels .negation deeper.negation) :
    Complete accepts (levels + 1) .negation (negation deeper) := by
  intro before after tokens tree demand budget derives passes ends
  rw [Parser.negation]
  cases derives with
  | not derives =>
      obtain ⟨stands, _, passes⟩ := passes
      rw [stands]
      exact (operand.nested budget.advance derives passes ends).of_iff (by omega)
  | plain derives =>
      have starts := derives.startsWith passes
      split
      · rename_i stands
        rw [stands] at starts
        cases starts
      · exact plain budget derives passes ends.inner

theorem hereditary_complete : Hereditary (Complete accepts) (CompleteTail accepts) where
  refuse := by
    intro category before after tokens tree demand _ _ _ _
    exact resolves_tooDeep (Nat.not_lt_zero demand)
  refuseTail := by
    intro link before after count tokens left tree demand _ _ _ _
    exact resolves_tooDeep fun fits => Nat.lt_irrefl 0 fits.1
  chain := .chain
  chainTail := .chainTail
  primary := .primary
  power := .power
  signed := .signed
  comparison := .comparison
  negation := .negation

end Grammar
end Assay
