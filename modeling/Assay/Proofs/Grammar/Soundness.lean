import Assay.Proofs.Grammar.Levels
import Assay.Proofs.Grammar.Passage
import Assay.Proofs.Outcome

/-!
# What is read is derived

Each production passes the tokens of a phrase of its kind and gives the phrase's tree, and the
phrase demands fewer levels than the production is built of.
-/

namespace Assay
namespace Grammar

open Assay.Parser Cursor Outcome

/-- A production reads phrases of a kind that demand fewer than some number of levels. -/
def Sound (levels : Nat) (category : Category) (production : Production Expr) : Prop :=
  ∀ ⦃before after : Cursor⦄ ⦃tree : Expr⦄, before.HasLevels levels →
    production before = .ok (tree, after) →
    ∃ tokens demand, before.Passes tokens after ∧
      Derives Builtin.takes category tokens tree demand ∧ demand < levels

/-- A production reads on in chains of a kind, with some levels open for the operators before. -/
def SoundTail (levels : Nat) (link : Link) (more : Nat → Expr → Production Expr) : Prop :=
  ∀ ⦃before after : Cursor⦄ ⦃count : Nat⦄ ⦃left tree : Expr⦄,
    before.HasLevels levels → more count left before = .ok (tree, after) →
    ∃ tokens demand, (before.leave count).Passes tokens after ∧
      Continues Builtin.takes link count left tokens tree demand ∧ demand < levels + count

theorem enter_eq_ok {cursor inside : Cursor} (entered : cursor.enter = .ok inside) :
    inside = cursor.opened := by
  rw [enter_eq] at entered
  split at entered
  · cases entered
    rfl
  · cases entered

variable {levels : Nat} {deeper : Level}

theorem Sound.chain {link : Link} {operand : Production Expr}
    {more : Nat → Expr → Production Expr}
    (first : Sound (levels + 1) link.operand operand)
    (tail : SoundTail (levels + 1) link more) :
    Sound (levels + 1) (.chain link) (Parser.chain operand more) := by
  intro before after tree budget run
  obtain ⟨⟨left, middle⟩, run_first, run_more⟩ := bind_eq_ok.mp run
  obtain ⟨front, demand, passes, derives, fits⟩ := first budget run_first
  obtain ⟨back, rest, passes_more, continues, fits_more⟩ :=
    tail (budget.passes passes) run_more
  rw [leave_zero] at passes_more
  exact ⟨front ++ back, max demand rest, passes.append passes_more, .chain derives continues,
    by omega⟩

theorem SoundTail.chainTail {link : Link} {operand : Production Expr}
    {more : Nat → Expr → Production Expr} (first : Sound levels link.operand operand)
    (tail : SoundTail levels link more) :
    SoundTail (levels + 1) link (Parser.chainTail link.joint? operand more) := by
  intro before after count left tree budget run
  rw [Parser.chainTail] at run
  split at run
  · cases run
    exact ⟨[], 0, rfl, .done, by omega⟩
  · rename_i join found
    have joins := Link.joint?_eq_some_iff.mp found
    obtain ⟨inside, entered, run⟩ := bind_eq_ok.mp run
    obtain rfl := enter_eq_ok entered
    obtain ⟨⟨right, middle⟩, run_operand, run_more⟩ := bind_eq_ok.mp run
    obtain ⟨front, demand, passes, derives, fits⟩ :=
      first budget.advance.opened run_operand
    obtain ⟨back, rest, passes_more, continues, fits_more⟩ :=
      tail (budget.advance.opened.passes passes) run_more
    refine ⟨before.token :: (front ++ back), max (count + 1 + demand) rest, ?_,
      .more joins derives continues, by omega⟩
    -- The end of the chain closes the level of this operator together with those before it.
    have passes_operand := passes.leave (count + 1)
    rw [leave_opened, ← advance_leave] at passes_operand
    exact ⟨rfl, joins.isFinish, passes_operand.append passes_more⟩

theorem segment?_names {token : Token} {segment : Segment}
    (found : segment? token = some segment) : Names token segment ∧ token.isFinish = false := by
  cases token with
  | name => cases found; exact ⟨.field _, rfl⟩
  | star => cases found; exact ⟨.wildcard, rfl⟩
  | int number =>
      rw [segment?] at found
      split at found
      · rename_i nonnegative
        cases found
        exact ⟨.index (Int.toNat_of_nonneg nonnegative).symm, rfl⟩
      · cases found
  | _ => cases found

/-- The segments of a reference are read as they are derived. -/
theorem path_sound {index depth limit : Nat} {lexemes : List Lexeme} {segments : List Segment}
    {after : Cursor} (run : path index depth limit lexemes = .ok (segments, after)) :
    ∃ tokens, Cursor.Passes ⟨lexemes, index, depth, limit⟩ tokens after ∧
      Segments tokens segments := by
  fun_induction path index depth limit lexemes generalizing segments with
  | case1 index position text next rest segment found ih =>
      obtain ⟨⟨others, last⟩, run_rest, outcome⟩ := bind_eq_ok.mp run
      cases outcome
      obtain ⟨tokens, passes, derives⟩ := ih run_rest
      obtain ⟨names, unfinished⟩ := segment?_names found
      refine ⟨.dot :: next.token :: tokens, ⟨rfl, rfl, rfl, unfinished, ?_⟩, .cons names derives⟩
      rw [advance_cons rfl, advance_cons unfinished]
      exact passes
  | case2 => cases run
  | case3 =>
      cases run
      exact ⟨[], rfl, .nil⟩

/-- The items before a closing token are read as they are derived. -/
theorem moreItems_sound {production : Production Expr} {closes : Token → Bool} {close : Token}
    (closer : Closer closes close) (sound : Sound levels .expression production)
    {expected : Expected} {fuel : Nat} {before after : Cursor} {trees : List Expr}
    (budget : before.HasLevels levels)
    (run : moreItems production closes expected fuel before = .ok (trees, after)) :
    ∃ tokens demand last, before.Passes (tokens ++ [close]) last ∧ after = last.leave 1 ∧
      Lists Builtin.takes tokens trees demand ∧ demand < levels := by
  induction fuel generalizing before trees with
  | zero => cases run
  | succ fuel ih =>
      obtain ⟨⟨item, middle⟩, run_item, run⟩ := bind_eq_ok.mp run
      obtain ⟨front, demand, passes, derives, fits⟩ := sound budget run_item
      dsimp only at run
      split at run
      · rename_i separated
        obtain ⟨⟨others, last⟩, run_others, outcome⟩ := bind_eq_ok.mp run
        cases outcome
        obtain ⟨back, rest, last, passes_others, rfl, lists, fits_others⟩ :=
          ih (budget.passes passes).advance run_others
        refine ⟨front ++ .comma :: back, max demand rest, last, ?_, rfl, .more derives lists,
          by omega⟩
        rw [List.append_assoc]
        exact passes.append ⟨separated, rfl, passes_others⟩
      · split at run
        · rename_i closed
          cases run
          have closing := closer.eq_true_iff.mp closed
          exact ⟨front, demand, middle.advance,
            passes.append ⟨closing, closer.isFinish, rfl⟩, rfl, .last derives, fits⟩
        · cases run

theorem items_sound {closes : Token → Bool} {close : Token} (closer : Closer closes close)
    (sound : Sound levels .expression deeper.expression) {expected : Expected}
    {before after : Cursor} {trees : List Expr}
    (budget : before.HasLevels (levels + 1))
    (run : items deeper closes expected before = .ok (trees, after)) :
    ∃ tokens demand, before.Passes (tokens ++ [close]) after ∧
      Encloses Builtin.takes tokens trees demand ∧ demand < levels + 1 := by
  rw [items] at run
  split at run
  · rename_i closed
    cases run
    exact ⟨[], 0, ⟨closer.eq_true_iff.mp closed, closer.isFinish, rfl⟩, .none, by omega⟩
  · obtain ⟨inside, entered, run⟩ := bind_eq_ok.mp run
    obtain rfl := enter_eq_ok entered
    obtain ⟨tokens, demand, last, passes, rfl, lists, fits⟩ :=
      moreItems_sound closer sound budget.opened run
    exact ⟨tokens, demand + 1, passes.closed, .some lists, by omega⟩

theorem named_sound (sound : Sound levels .expression deeper.expression) {name : String}
    {before after : Cursor} {tree : Expr} (stands : before.token = .name name)
    (budget : before.HasLevels (levels + 1))
    (run : named deeper name before = .ok (tree, after)) :
    ∃ tokens demand, before.Passes tokens after ∧
      Derives Builtin.takes .primary tokens tree demand ∧ demand < levels + 1 := by
  rw [named] at run
  split at run
  · rename_i opens
    split at run
    · cases run
    · rename_i builtin known
      obtain ⟨⟨arguments, last⟩, run_items, run⟩ := bind_eq_ok.mp run
      obtain ⟨tokens, demand, passes, encloses, fits⟩ :=
        items_sound .parenthesis sound budget.advance.advance run_items
      dsimp only at run
      split at run
      · rename_i accepted
        cases run
        exact ⟨.name name :: .openParen :: (tokens ++ [.closeParen]), demand,
          ⟨stands, rfl, opens, rfl, passes⟩, .call known encloses accepted, fits⟩
      · cases run
  · obtain ⟨⟨segments, last⟩, run_path, outcome⟩ := bind_eq_ok.mp run
    cases outcome
    obtain ⟨tokens, passes, derives⟩ := path_sound run_path
    exact ⟨.name name :: tokens, 0, ⟨stands, rfl, passes⟩, .reference derives, by omega⟩

theorem Sound.primary (sound : Sound levels .expression deeper.expression) :
    Sound (levels + 1) .primary (primary deeper) := by
  intro before after tree budget run
  rw [Parser.primary] at run
  split at run
  case h_1 number stands =>
    cases run
    exact ⟨[.int number], 0, ⟨stands, rfl, rfl⟩, .literal (.int number), by omega⟩
  case h_2 number stands =>
    cases run
    exact ⟨[.float number], 0, ⟨stands, rfl, rfl⟩, .literal (.float number), by omega⟩
  case h_3 content stands =>
    cases run
    exact ⟨[.text content], 0, ⟨stands, rfl, rfl⟩, .literal (.text content), by omega⟩
  case h_4 value stands =>
    cases run
    exact ⟨[.truth value], 0, ⟨stands, rfl, rfl⟩, .literal (.truth value), by omega⟩
  case h_5 stands =>
    obtain ⟨inside, entered, run⟩ := bind_eq_ok.mp run
    obtain rfl := enter_eq_ok entered
    obtain ⟨⟨inner, middle⟩, run_inner, run⟩ := bind_eq_ok.mp run
    obtain ⟨tokens, demand, passes, derives, fits⟩ := sound budget.advance.opened run_inner
    dsimp only at run
    split at run
    · rename_i closes
      cases run
      have passes_close : before.advance.opened.Passes (tokens ++ [.closeParen]) middle.advance :=
        passes.append ⟨closes, rfl, rfl⟩
      exact ⟨.openParen :: (tokens ++ [.closeParen]), demand + 1,
        ⟨stands, rfl, passes_close.closed⟩, .parentheses derives, by omega⟩
    · cases run
  case h_6 stands =>
    obtain ⟨⟨elements, last⟩, run_items, outcome⟩ := bind_eq_ok.mp run
    cases outcome
    obtain ⟨tokens, demand, passes, encloses, fits⟩ :=
      items_sound .bracket sound budget.advance run_items
    exact ⟨.openBracket :: (tokens ++ [.closeBracket]), demand, ⟨stands, rfl, passes⟩,
      .list encloses, fits⟩
  case h_7 name stands => exact named_sound sound stands budget run
  case h_8 => cases run

/-- What is read one level down is passed without the level. -/
theorem Sound.nested {category : Category} {production : Production Expr}
    (sound : Sound levels category production) {wrap : Expr → Expr} {before after : Cursor}
    {tree : Expr} (budget : before.HasLevels (levels + 1))
    (run : (do
      let inside ← before.enter
      let (operand, last) ← production inside
      return (wrap operand, last.leave 1)) = .ok (tree, after)) :
    ∃ operand tokens demand, tree = wrap operand ∧ before.Passes tokens after ∧
      Derives Builtin.takes category tokens operand demand ∧ demand < levels := by
  obtain ⟨inside, entered, run⟩ := bind_eq_ok.mp run
  obtain rfl := enter_eq_ok entered
  obtain ⟨⟨operand, last⟩, run_operand, outcome⟩ := bind_eq_ok.mp run
  cases outcome
  obtain ⟨tokens, demand, passes, derives, fits⟩ := sound budget.opened run_operand
  exact ⟨operand, tokens, demand, rfl, passes.closed, derives, fits⟩

theorem Sound.power (base : Sound (levels + 1) .primary (Parser.primary deeper))
    (exponent : Sound levels .signed deeper.signed) :
    Sound (levels + 1) .power (power deeper) := by
  intro before after tree budget run
  obtain ⟨⟨left, middle⟩, run_base, run⟩ := bind_eq_ok.mp run
  obtain ⟨front, demand, passes, derives, fits⟩ := base budget run_base
  dsimp only at run
  split at run
  · rename_i raised
    obtain ⟨right, back, rest, rfl, passes_exponent, derives_exponent, fits_exponent⟩ :=
      exponent.nested (budget.passes passes).advance run
    exact ⟨front ++ .caret :: back, max demand (rest + 1),
      passes.append ⟨raised, rfl, passes_exponent⟩, .power derives derives_exponent, by omega⟩
  · cases run
    exact ⟨front, demand, passes, .base derives, fits⟩

theorem Sound.signed (unsigned : Sound (levels + 1) .power (Parser.power deeper))
    (operand : Sound levels .signed deeper.signed) :
    Sound (levels + 1) .signed (signed deeper) := by
  intro before after tree budget run
  rw [Parser.signed] at run
  split at run
  · rename_i stands
    obtain ⟨inner, tokens, demand, rfl, passes, derives, fits⟩ :=
      operand.nested budget.advance run
    exact ⟨.minus :: tokens, demand + 1, ⟨stands, rfl, passes⟩, .minus derives, by omega⟩
  · obtain ⟨tokens, demand, passes, derives, fits⟩ := unsigned budget run
    exact ⟨tokens, demand, passes, .unsigned derives, fits⟩

theorem Sound.negation (plain : Sound (levels + 1) .comparison (comparison deeper))
    (operand : Sound levels .negation deeper.negation) :
    Sound (levels + 1) .negation (negation deeper) := by
  intro before after tree budget run
  rw [Parser.negation] at run
  split at run
  · rename_i stands
    obtain ⟨inner, tokens, demand, rfl, passes, derives, fits⟩ :=
      operand.nested budget.advance run
    exact ⟨.not :: tokens, demand + 1, ⟨stands, rfl, passes⟩, .not derives, by omega⟩
  · obtain ⟨tokens, demand, passes, derives, fits⟩ := plain budget run
    exact ⟨tokens, demand, passes, .plain derives, fits⟩

theorem comparison?_eq_some {token : Token} {op : CompareOp}
    (found : comparison? token = some op) : token = sign op := by
  cases token <;> cases found <;> rfl

theorem Sound.comparison (sum : Sound (levels + 1) (.chain .sum) (Parser.sum deeper)) :
    Sound (levels + 1) .comparison (comparison deeper) := by
  intro before after tree budget run
  obtain ⟨⟨left, middle⟩, run_left, run⟩ := bind_eq_ok.mp run
  obtain ⟨front, demand, passes, derives, fits⟩ := sum budget run_left
  dsimp only at run
  split at run
  · rename_i op found
    have stands := comparison?_eq_some found
    have unfinished : (sign op).isFinish = false := by cases op <;> rfl
    obtain ⟨⟨right, last⟩, run_right, outcome⟩ := bind_eq_ok.mp run
    cases outcome
    obtain ⟨back, rest, passes_right, derives_right, fits_right⟩ :=
      sum (budget.passes passes).advance run_right
    exact ⟨front ++ sign op :: back, max demand rest,
      passes.append ⟨stands, unfinished, passes_right⟩, .compare derives derives_right, by omega⟩
  · cases run
    exact ⟨front, demand, passes, .single derives, fits⟩

theorem hereditary_sound : Hereditary Sound SoundTail where
  refuse := by
    intro category before after tree _ run
    cases run
  refuseTail := by
    intro link before after count left tree _ run
    cases run
  chain := .chain
  chainTail := .chainTail
  primary := .primary
  power := .power
  signed := .signed
  comparison := .comparison
  negation := .negation

end Grammar
end Assay
