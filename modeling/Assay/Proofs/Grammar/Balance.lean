import Assay.Proofs.Grammar.Lookahead
import Assay.Proofs.Grammar.Realization

/-!
# Levels that are open again

The routine of a production closes the levels that it opens and no others. So the levels that are
open where a production starts stay open during its run, and at its end they are the ones that are
open again. What it has read by then are lexemes in front of the end.
-/

namespace Assay
namespace Cursor

/-! ## Places among lexemes -/

/-- A place among the lexemes of a source, with some levels open. -/
def among (lexemes : List Lexeme) (index depth : Nat) : Cursor :=
  ⟨lexemes.drop index, index, depth, maxNesting⟩

/-- From one place among lexemes to another one something has been read. -/
structure Onward (lexemes : List Lexeme) (before after : Cursor) : Prop where
  /-- A lexeme has been passed. -/
  index_lt : before.index < after.index
  /-- The last lexeme has not been passed. -/
  index_lt_length : after.index < lexemes.length
  /-- No end of a source has been passed. -/
  unfinished : Unfinished ((lexemes.drop before.index).take (after.index - before.index))
  /-- The lexemes from there on are the others. -/
  rest_eq : after.rest = lexemes.drop after.index

variable {before after : Cursor} {tokens : List Token} {lexemes : List Lexeme}

theorem Passes.exists_body (passes : before.Passes tokens after) :
    ∃ body, before.rest = body ++ after.rest ∧ Unfinished body ∧
      body.length = tokens.length ∧ after.index = before.index + body.length := by
  induction tokens generalizing before with
  | nil =>
      rw [passes_nil.mp passes]
      exact ⟨[], rfl, nofun, rfl, rfl⟩
  | cons token tokens ih =>
      have unfinished := passes.2.1
      obtain ⟨lexemes, index, depth, limit⟩ := before
      obtain ⟨position, text, rest, rfl, later⟩ := passes.exists_rest
      obtain ⟨body, rest_eq, others, length_eq, index_eq⟩ := ih later
      refine ⟨⟨token, position, text⟩ :: body, congrArg (_ :: ·) rest_eq,
        List.forall_mem_cons.mpr ⟨unfinished, others⟩, congrArg (· + 1) length_eq, ?_⟩
      rw [index_eq, List.length_cons, Nat.add_right_comm, Nat.add_assoc]

theorem closed_drop {index : Nat}
    (ended : ∃ body last, lexemes = body ++ [last] ∧ last.token = .finish)
    (some_left : lexemes.drop index ≠ []) : Closed (lexemes.drop index) := by
  obtain ⟨body, last, rfl, finish⟩ := ended
  have within : index ≤ body.length := by
    rw [Ne, List.drop_eq_nil_iff, List.length_append, List.length_singleton] at some_left
    omega
  rw [List.drop_append_of_le_length within]
  exact ⟨last, List.mem_append_right _ List.mem_cons_self, congrArg Token.isFinish finish⟩

theorem Passes.onward (passes : before.Passes tokens after) (some_passed : tokens ≠ [])
    (ended : ∃ body last, lexemes = body ++ [last] ∧ last.token = .finish)
    (place : lexemes.drop before.index = before.rest) : before.Onward lexemes after := by
  obtain ⟨body, rest_eq, unfinished, length_eq, index_eq⟩ := passes.exists_body
  have nonempty : 0 < body.length := by
    rw [length_eq]
    exact List.length_pos_iff.mpr some_passed
  rw [rest_eq] at place
  have some_left : lexemes.drop before.index ≠ [] := by
    rw [place]
    exact List.append_ne_nil_of_left_ne_nil (List.length_pos_iff.mp nonempty) _
  have closed : Closed after.rest :=
    (place ▸ closed_drop ended some_left : Closed (body ++ after.rest)).of_append unfinished
  have left : 0 < after.rest.length := List.length_pos_iff.mpr closed.ne_nil
  have total := congrArg List.length place
  rw [List.length_drop, List.length_append] at total
  refine ⟨by omega, by omega, ?_, ?_⟩
  · rw [place, index_eq, Nat.add_sub_cancel_left, List.take_left]
    exact unfinished
  · rw [index_eq, ← List.drop_drop, place, List.drop_left]

end Cursor

namespace Grammar

open Assay.Parser

namespace Routine

/-! ## Levels that the routines close -/

section Closes

variable {deeper : Routines}

theorem closes_chainTail {joint? : Joint} {operand : Routine Expr}
    {more : Nat → Expr → Routine Expr} (first : Closes 0 operand)
    (rest : ∀ count left, Closes count (more count left)) (count : Nat) (left : Expr) :
    Closes count (chainTail joint? operand more count left) := by
  refine closes_token.bind fun token => ?_
  cases joint? token with
  | none => exact .left (closes_pure left)
  | some joint => exact .advanced (.entered (first.bind fun right => rest (count + 1) _))

theorem closes_chain {operand : Routine Expr} {more : Nat → Expr → Routine Expr}
    (first : Closes 0 operand) (rest : ∀ count left, Closes count (more count left)) :
    Closes 0 (chain operand more) := first.bind fun left => rest 0 left

theorem closes_path (lexemes : List Lexeme) : Closes 0 (path lexemes) := by
  fun_induction path lexemes with
  | case1 position text next rest ih =>
      refine .advanced ?_
      cases segment? next.token with
      | none => exact closes_fault .segment
      | some segment => exact .advanced (ih.bind fun segments => closes_pure (segment :: segments))
  | case2 => exact closes_pure []

theorem closes_moreItems {expression : Routine Expr} (inside : Closes 0 expression)
    (closes : Token → Bool) (expected : Expected) (limit : Nat) :
    Closes 1 (moreItems expression closes expected limit) := by
  induction limit with
  | zero => exact closes_fault expected
  | succ limit ih =>
      refine inside.bind fun item => closes_token.bind fun token => ?_
      split
      · exact .advanced (ih.append fun items => closes_pure (item :: items))
      · split
        · exact .advanced (.left (closes_pure [item]))
        · exact closes_fault expected

/-- Nothing is opened for no items, and one level is for any number of them. -/
theorem closes_items (inside : Closes 0 (deeper.phrase .expression)) (closes : Token → Bool)
    (expected : Expected) : Closes 0 (items deeper closes expected) := by
  refine closes_token.bind fun token => ?_
  split
  · exact .advanced (closes_pure [])
  · exact .entered (closes_here.bind fun _ => closes_moreItems inside closes expected _)

theorem closes_named (inside : Closes 0 (deeper.phrase .expression)) (name : String) :
    Closes 0 (named deeper name) := by
  refine closes_here.bind fun start => .advanced (closes_token.bind fun token => ?_)
  split
  · split
    · exact .fail 0 _
    · refine .advanced ((closes_items inside _ _).bind fun arguments => ?_)
      split
      · exact closes_pure _
      · exact .fail 0 _
  · exact closes_here.bind fun after =>
      (closes_path after.rest).bind fun segments => closes_pure _

theorem closes_literal (value : Value) : Closes 0 (literal value) := .advanced (closes_pure _)

theorem closes_primary (inside : Closes 0 (deeper.phrase .expression)) :
    Closes 0 (primary deeper) := by
  refine closes_token.bind fun token => ?_
  split
  case h_5 =>
    refine .advanced (.entered (inside.bind fun inner => closes_token.bind fun token => ?_))
    split
    · exact .advanced (.left (closes_pure inner))
    · exact closes_fault .closeParen
  case h_6 => exact .advanced ((closes_items inside _ _).bind fun elements => closes_pure _)
  case h_7 name => exact closes_named inside name
  case h_8 => exact closes_fault .operand
  all_goals exact closes_literal _

theorem closes_nested {operand : Routine Expr} (inside : Closes 0 operand) (wrap : Expr → Expr) :
    Closes 0 (nested operand wrap) :=
  .advanced (.entered (inside.bind fun inner => .left (closes_pure (wrap inner))))

theorem closes_power (base : Closes 0 (primary deeper))
    (exponent : Closes 0 (deeper.phrase .signed)) : Closes 0 (power deeper) := by
  refine base.bind fun left => closes_token.bind fun token => ?_
  split
  · exact closes_nested exponent _
  · exact closes_pure left

theorem closes_signed (unsigned : Closes 0 (power deeper))
    (operand : Closes 0 (deeper.phrase .signed)) : Closes 0 (signed deeper) := by
  refine closes_token.bind fun token => ?_
  split
  · exact closes_nested operand _
  · exact unsigned

theorem closes_comparison (terms : Closes 0 (sum deeper)) : Closes 0 (comparison deeper) := by
  refine terms.bind fun left => closes_token.bind fun token => ?_
  split
  · exact .advanced (terms.bind fun right => closes_pure _)
  · exact closes_pure left

theorem closes_negation (plain : Closes 0 (comparison deeper))
    (operand : Closes 0 (deeper.phrase .negation)) : Closes 0 (negation deeper) := by
  refine closes_token.bind fun token => ?_
  split
  · exact closes_nested operand _
  · exact plain

end Closes

end Routine

/-- The routines that read phrases close the levels that they open. Those that read on in chains
also close the levels of the operators before. -/
structure Routines.Balanced (routines : Routines) : Prop where
  phrase : ∀ category, Routine.Closes 0 (routines.phrase category)
  more : ∀ link count left, Routine.Closes count (routines.more link count left)

theorem Routines.Balanced.closes_phrase {deeper : Routines} (below : deeper.Balanced)
    (category : Category) : Routine.Closes 0 (Routine.phrase deeper category) := by
  have more (link : Link) (count : Nat) (left : Expr) :
      Routine.Closes count (Routine.more deeper link count left) :=
    Routine.closes_chainTail (below.phrase link.operand) (below.more link) count left
  have primary := Routine.closes_primary (below.phrase .expression)
  have power := Routine.closes_power primary (below.phrase .signed)
  have signed := Routine.closes_signed power (below.phrase .signed)
  have product : Routine.Closes 0 (Routine.product deeper) :=
    Routine.closes_chain signed (more .product)
  have sum : Routine.Closes 0 (Routine.sum deeper) := Routine.closes_chain product (more .sum)
  have comparison := Routine.closes_comparison sum
  have negation := Routine.closes_negation comparison (below.phrase .negation)
  have conjunction : Routine.Closes 0 (Routine.conjunction deeper) :=
    Routine.closes_chain negation (more .conjunction)
  have expression : Routine.Closes 0 (Routine.expression deeper) :=
    Routine.closes_chain conjunction (more .disjunction)
  cases category with
  | chain link => cases link <;> assumption
  | _ => assumption

theorem Routines.balanced_ofLevels (levels : Nat) : (ofLevels levels).Balanced := by
  induction levels with
  | zero => exact ⟨fun _ => .look fun _ => .fail _ _, fun _ _ _ => .look fun _ => .fail _ _⟩
  | succ levels ih =>
      exact ⟨ih.closes_phrase, fun link =>
        Routine.closes_chainTail (ih.phrase link.operand) (ih.more link)⟩

/-! ## Productions -/

/-- A production is the run of a routine. The levels that are open where it starts stay open all the
time, and if it succeeds, no others are open where it ends, behind some lexemes. -/
structure RestoresLevels {α : Type} (lexemes : List Lexeme) (before : Cursor)
    (routine : Routine α) (production : Production α) : Prop where
  /-- The steps of the routine lead to what comes of the production. -/
  stops : ∃ state, Routine.State.Reaches ⟨routine, before⟩ state ∧ state.Stops (production before)
  /-- The levels at the start stay open. -/
  depth_le : ∀ state, Routine.State.Reaches ⟨routine, before⟩ state →
    before.depth ≤ state.cursor.depth
  /-- Levels that are closed were opened since. -/
  leave_le : ∀ levels next cursor,
    Routine.State.Reaches ⟨routine, before⟩ ⟨.go (.leave levels) next, cursor⟩ →
      before.depth + levels ≤ cursor.depth
  /-- If it succeeds, as many are open as at the start. -/
  depth_eq : ∀ value after, production before = .ok (value, after) → after.depth = before.depth
  /-- If it succeeds, it has gone past something, and not past the end. -/
  onward : ∀ value after, production before = .ok (value, after) → before.Onward lexemes after

section

variable {α : Type} {lexemes : List Lexeme} {before : Cursor} {routine : Routine α}
  {production : Production α}

theorem restoresLevels_of_run (run_eq : routine.run = production)
    (closes : Routine.Closes 0 routine)
    (onward : ∀ value after, production before = .ok (value, after) →
      before.Onward lexemes after) : RestoresLevels lexemes before routine production := by
  have balanced : Routine.State.Balanced before.depth ⟨routine, before⟩ := ⟨0, closes, rfl⟩
  have stops := Routine.State.exists_stops_run routine before
  rw [run_eq] at stops
  refine ⟨stops, ?_, ?_, ?_, onward⟩
  · exact fun state reaches => (reaches.balanced balanced).le_depth
  · exact fun levels next cursor reaches => (reaches.balanced balanced).leave_le
  · intro value after read
    obtain ⟨state, reaches, stops⟩ := stops
    rw [read] at stops
    cases stops
    exact (reaches.balanced balanced).depth_of_done

end

/-- Every production restores the levels, at each place among lexemes that end with an end and with
any number of levels open that may be: the productions for the kinds of phrases, for items up to a
closing token, and for what starts with a name. They are built of as many levels as can still be
opened, like those that read a source, of which none is open at first. -/
theorem productions_restore_levels {lexemes : List Lexeme}
    (ended : ∃ body last, lexemes = body ++ [last] ∧ last.token = .finish) (index : Nat)
    {depth : Nat} (shallow : depth ≤ maxNesting) :
    (∀ category, RestoresLevels lexemes (Cursor.among lexemes index depth)
        (Routine.phrase (.ofLevels (maxNesting - depth)) category)
        (production (.ofLevels (maxNesting - depth)) category)) ∧
      (∀ closes close expected, Closer closes close →
        RestoresLevels lexemes (Cursor.among lexemes index depth)
          (Routine.items (.ofLevels (maxNesting - depth)) closes expected)
          (Parser.items (.ofLevels (maxNesting - depth)) closes expected)) ∧
      ∀ name, (Cursor.among lexemes index depth).token = .name name →
        RestoresLevels lexemes (Cursor.among lexemes index depth)
          (Routine.named (.ofLevels (maxNesting - depth)) name)
          (Parser.named (.ofLevels (maxNesting - depth)) name) := by
  have budget : (Cursor.among lexemes index depth).HasLevels (maxNesting - depth + 1) := by
    rw [Cursor.HasLevels, ← Nat.add_assoc]
    exact congrArg (· + 1) (Nat.add_sub_cancel' shallow)
  have sound := hereditary_sound.ofLevels (maxNesting - depth)
  have runs := Routine.hereditary_run.ofLevels (maxNesting - depth)
  have balanced := Routines.balanced_ofLevels (maxNesting - depth)
  refine ⟨fun category => ?_, fun closes close expected closer => ?_, fun name stands => ?_⟩
  · refine restoresLevels_of_run (Routine.hereditary_run.production runs category)
      (balanced.closes_phrase category) fun tree after read => ?_
    obtain ⟨tokens, demand, passes, derives, -⟩ :=
      hereditary_sound.production sound category budget read
    obtain ⟨first, rest, rfl, -⟩ := derives.exists_first
    exact passes.onward (List.cons_ne_nil first rest) ended rfl
  · refine restoresLevels_of_run (Routine.run_items runs.expression closes expected)
      (Routine.closes_items (balanced.phrase .expression) closes expected)
      fun trees after read => ?_
    obtain ⟨tokens, demand, passes, -, -⟩ := items_sound closer sound.expression budget read
    exact passes.onward (List.append_ne_nil_of_right_ne_nil _ (List.cons_ne_nil _ _)) ended rfl
  · refine restoresLevels_of_run (Routine.run_named runs.expression name)
      (Routine.closes_named (balanced.phrase .expression) name) fun tree after read => ?_
    obtain ⟨tokens, demand, passes, derives, -⟩ := named_sound sound.expression stands budget read
    obtain ⟨first, rest, rfl, -⟩ := derives.exists_first
    exact passes.onward (List.cons_ne_nil first rest) ended rfl

/-- The lexemes of `not [-x.0, (2)]`. -/
def enclosed : List Lexeme :=
  [⟨.not, 0, ['n', 'o', 't']⟩, ⟨.openBracket, 4, ['[']⟩, ⟨.minus, 5, ['-']⟩, ⟨.name "x", 6, ['x']⟩,
    ⟨.dot, 7, ['.']⟩, ⟨.int 0, 8, ['0']⟩, ⟨.comma, 9, [',']⟩, ⟨.openParen, 11, ['(']⟩,
    ⟨.int 2, 12, ['2']⟩, ⟨.closeParen, 13, [')']⟩, ⟨.closeBracket, 14, [']']⟩, ⟨.finish, 15, []⟩]

theorem productions_restore_levels_enclosed :
    (∃ body last, enclosed = body ++ [last] ∧ last.token = .finish) ∧ 62 ≤ maxNesting ∧
      (∃ tree after,
        production (.ofLevels (maxNesting - 62)) .primary (Cursor.among enclosed 1 62) =
          .ok (tree, after) ∧ after.depth = 62 ∧ after.index = 11) ∧
      RestoresLevels enclosed (Cursor.among enclosed 1 62)
        (Routine.phrase (.ofLevels (maxNesting - 62)) .primary)
        (production (.ofLevels (maxNesting - 62)) .primary) := by
  have ended : ∃ body last, enclosed = body ++ [last] ∧ last.token = .finish :=
    ⟨enclosed.dropLast, ⟨.finish, 15, []⟩, rfl, rfl⟩
  have shallow : 62 ≤ maxNesting := by decide
  -- The list and then the minus and the parentheses in it take both levels that are left.
  have read : production (.ofLevels (maxNesting - 62)) .primary (Cursor.among enclosed 1 62) =
      .ok (.list [.unary .negate (.reference ⟨"x", [.index 0]⟩), .literal (.int 2)],
        ⟨[⟨.finish, 15, []⟩], 11, 62, maxNesting⟩) := by with_unfolding_all rfl
  exact ⟨ended, shallow, ⟨_, _, read, rfl, rfl⟩,
    (productions_restore_levels ended 1 shallow).1 .primary⟩

end Grammar
end Assay
