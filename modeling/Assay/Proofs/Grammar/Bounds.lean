import Assay.Proofs.Expr.Lexemes
import Assay.Proofs.Grammar.Lookahead
import Assay.Proofs.Grammar.Soundness

/-!
# Reading within the lexemes

A production goes from place to place: past a token, down a level or up again. It never goes past
the end of the source, so there is a lexeme at each place that it reaches, and what it complains
about stands at one of them.
-/

namespace Assay
namespace Cursor

/-- The ways of a production among lexemes. -/
inductive Reaches (before : Cursor) : Cursor → Prop where
  /-- It stays. -/
  | refl : Reaches before before
  /-- It goes past a token. -/
  | advance {after : Cursor} (reaches : Reaches before after) : Reaches before after.advance
  /-- It opens a level. -/
  | opened {after : Cursor} (reaches : Reaches before after) : Reaches before after.opened
  /-- It closes levels. -/
  | leave {after : Cursor} (reaches : Reaches before after) (levels : Nat) :
      Reaches before (after.leave levels)

variable {before middle after cursor : Cursor} {lexemes : List Lexeme}

theorem Reaches.trans (first : before.Reaches middle) (second : middle.Reaches after) :
    before.Reaches after := by
  induction second with
  | refl => exact first
  | advance _ ih => exact ih.advance
  | opened _ ih => exact ih.opened
  | leave _ levels ih => exact ih.leave levels

/-- A place among some lexemes, at the latest at the end of the source. -/
structure Within (lexemes : List Lexeme) (cursor : Cursor) : Prop where
  rest_eq : lexemes.drop cursor.index = cursor.rest
  closed : Closed cursor.rest

theorem advance_of_isFinish (ended : cursor.token.isFinish = true) : cursor.advance = cursor := by
  obtain ⟨lexemes, index, depth, limit⟩ := cursor
  cases lexemes with
  | nil => rfl
  | cons lexeme rest => exact if_pos ended

theorem Within.advance (within : cursor.Within lexemes) : cursor.advance.Within lexemes := by
  cases ended : cursor.token.isFinish with
  | true => rwa [advance_of_isFinish ended]
  | false =>
      obtain ⟨lexeme, rest, rest_eq, -, advance_eq⟩ := exists_cons_of_unfinished ended
      have closed := within.closed.advance ended
      have dropped := within.rest_eq
      rw [advance_eq] at closed ⊢
      rw [rest_eq] at dropped
      refine ⟨?_, closed⟩
      rw [← List.drop_drop, dropped]
      rfl

theorem Reaches.within (reaches : before.Reaches after) (within : before.Within lexemes) :
    after.Within lexemes := by
  induction reaches with
  | refl => exact within
  | advance _ ih => exact ih.advance
  | opened _ ih => exact ⟨ih.rest_eq, ih.closed⟩
  | leave _ levels ih => exact ⟨ih.rest_eq, ih.closed⟩

/-- There is a lexeme at each place. -/
theorem Within.getElem?_index (within : cursor.Within lexemes) :
    lexemes[cursor.index]? = some cursor.lexeme := by
  obtain ⟨first, rest, rest_eq⟩ := List.exists_cons_of_ne_nil within.closed.ne_nil
  rw [← List.head?_drop, within.rest_eq, Cursor.lexeme, rest_eq]
  rfl

end Cursor

namespace Grammar

open Assay.Parser Cursor Outcome

variable {α β : Type}

/-- What comes of an action at a place is had at places that can be reached from it: the one where
it ends, or the one of the lexeme that it complains about. -/
inductive Traced (before : Cursor) : Except SyntaxFault (α × Cursor) → Prop where
  | ok {value : α} {after : Cursor} (reaches : before.Reaches after) :
      Traced before (.ok (value, after))
  | error {fault : SyntaxFault} {place : Cursor} (reaches : before.Reaches place)
      (position_eq : fault.position = place.lexeme.position)
      (text_eq : fault.text = place.lexeme.text) : Traced before (.error fault)

/-- What comes of an action can be traced from each place. -/
def Traceable (action : Production α) : Prop := ∀ before, Traced before (action before)

section Traced

variable {action : Production α} {next : α × Cursor → Except SyntaxFault (β × Cursor)}
  {before middle after : Cursor} {outcome : Except SyntaxFault (α × Cursor)}

theorem Traced.from (traced : Traced middle outcome) (reaches : before.Reaches middle) :
    Traced before outcome := by
  cases traced with
  | ok further => exact .ok (reaches.trans further)
  | error further position_eq text_eq => exact .error (reaches.trans further) position_eq text_eq

theorem Traced.bind (traced : Traced before outcome)
    (traceable : ∀ value, Traceable fun cursor => next (value, cursor)) :
    Traced before (outcome >>= next) := by
  cases traced with
  | ok reaches => exact (traceable _ _).from reaches
  | error reaches position_eq text_eq => exact .error reaches position_eq text_eq

theorem Traceable.bind (first : Traceable action)
    (second : ∀ value, Traceable fun cursor => next (value, cursor)) :
    Traceable fun cursor => action cursor >>= next := fun before => (first before).bind second

theorem Traceable.advance (traceable : Traceable action) :
    Traceable fun cursor => action cursor.advance :=
  fun before => (traceable before.advance).from Reaches.refl.advance

theorem traced_fault (expected : Expected) :
    Traced before (.error (before.fault expected) : Except SyntaxFault (α × Cursor)) :=
  .error .refl rfl rfl

theorem traced_tooDeep :
    Traced before (.error before.tooDeep : Except SyntaxFault (α × Cursor)) :=
  .error .refl rfl rfl

theorem Traceable.enter (traceable : Traceable action) :
    Traceable fun cursor => cursor.enter >>= action := by
  intro before
  dsimp only
  rw [enter_eq]
  split
  · exact (traceable before.opened).from Reaches.refl.opened
  · exact traced_tooDeep

theorem traceable_ok (value : α) : Traceable fun cursor => .ok (value, cursor) := fun _ => .ok .refl

theorem traceable_leave (value : α) (levels : Nat) :
    Traceable fun cursor => .ok (value, cursor.leave levels) :=
  fun _ => .ok (Reaches.refl.leave levels)

end Traced

/-! ## Productions -/

variable {deeper : Level}

/-- The productions that read on in a chain are traceable. -/
def TraceableTail (more : Nat → Expr → Production Expr) : Prop :=
  ∀ count left, Traceable (more count left)

theorem Traceable.chain {operand : Production Expr} {more : Nat → Expr → Production Expr}
    (first : Traceable operand) (tail : TraceableTail more) :
    Traceable (Parser.chain operand more) :=
  first.bind fun value => tail 0 value

theorem TraceableTail.chainTail {joint? : Joint} {operand : Production Expr}
    {more : Nat → Expr → Production Expr} (first : Traceable operand) (tail : TraceableTail more) :
    TraceableTail (Parser.chainTail joint? operand more) := by
  intro count left before
  rw [Parser.chainTail]
  split
  · exact traceable_leave left count before
  · rename_i join _
    exact (first.bind fun right => tail (count + 1) (join left right)).enter.advance before

theorem Traceable.nested {production : Production Expr} (traceable : Traceable production)
    (wrap : Expr → Expr) : Traceable fun cursor => do
      let inside ← cursor.enter
      let (operand, last) ← production inside
      return (wrap operand, last.leave 1) :=
  Traceable.enter (traceable.bind fun operand => traceable_leave (wrap operand) 1)

theorem reaches_behind {lexeme : Lexeme} {rest : List Lexeme} {index depth limit : Nat}
    (unfinished : lexeme.token.isFinish = false) :
    Cursor.Reaches ⟨lexeme :: rest, index, depth, limit⟩ ⟨rest, index + 1, depth, limit⟩ := by
  rw [← advance_cons unfinished]
  exact Reaches.refl.advance

theorem traced_path (index depth limit : Nat) (lexemes : List Lexeme) :
    Traced ⟨lexemes, index, depth, limit⟩ (Parser.path index depth limit lexemes) := by
  fun_induction Parser.path index depth limit lexemes with
  | case1 index position text next rest segment found ih =>
      have behind_point :
          Cursor.Reaches ⟨⟨.dot, position, text⟩ :: next :: rest, index, depth, limit⟩
            ⟨next :: rest, index + 1, depth, limit⟩ := reaches_behind rfl
      have behind := behind_point.trans (reaches_behind (segment?_names found).2)
      exact (ih.from behind).bind fun segments => traceable_ok (segment :: segments)
  | case2 => exact (traced_fault .segment).from (reaches_behind rfl)
  | case3 => exact .ok .refl

theorem Traceable.moreItems {production : Production Expr} (traceable : Traceable production)
    (closes : Token → Bool) (expected : Expected) (fuel : Nat) :
    Traceable (Parser.moreItems production closes expected fuel) := by
  induction fuel with
  | zero => exact fun _ => traced_fault expected
  | succ fuel ih =>
      refine traceable.bind fun item before => ?_
      dsimp only
      split
      · exact (ih.bind fun items => traceable_ok (item :: items)).advance before
      · split
        · exact (traceable_leave [item] 1).advance before
        · exact traced_fault expected

theorem Traceable.items (traceable : Traceable deeper.expression) (closes : Token → Bool)
    (expected : Expected) : Traceable (Parser.items deeper closes expected) := by
  intro before
  rw [Parser.items]
  split
  · exact (traceable_ok []).advance before
  · have opens : Traceable fun cursor => cursor.enter >>= fun inside =>
        Parser.moreItems deeper.expression closes expected inside.rest.length inside :=
      .enter fun inside => traceable.moreItems closes expected inside.rest.length inside
    exact opens before

theorem Traceable.named (traceable : Traceable deeper.expression) (name : String) :
    Traceable (Parser.named deeper name) := by
  intro before
  rw [Parser.named]
  split
  · split
    · exact .error .refl rfl rfl
    · rename_i builtin _
      have arguments : Traced before
          (Parser.items deeper Token.isCloseParen .argumentSeparator before.advance.advance) :=
        (traceable.items Token.isCloseParen .argumentSeparator).advance.advance before
      -- A wrong number of arguments is complained about at the name, in front of what is read.
      generalize Parser.items deeper Token.isCloseParen .argumentSeparator before.advance.advance =
        outcome at arguments ⊢
      cases arguments with
      | error reaches position_eq text_eq => exact .error reaches position_eq text_eq
      | @ok arguments last reaches =>
          change Traced before (if builtin.takes arguments.length then _ else _)
          split
          · exact .ok reaches
          · exact .error .refl rfl rfl
  · have segments := (traced_path before.advance.index before.advance.depth before.advance.limit
      before.advance.rest).from Reaches.refl.advance
    exact segments.bind fun segments => traceable_ok (Expr.reference ⟨name, segments⟩)

theorem Traceable.primary (traceable : Traceable deeper.expression) :
    Traceable (Parser.primary deeper) := by
  intro before
  rw [Parser.primary]
  split
  case h_5 =>
    refine (Traceable.enter (traceable.bind fun inner after => ?_)).advance before
    dsimp only
    split
    · exact (traceable_leave inner 1).advance after
    · exact traced_fault .closeParen
  case h_6 =>
    exact ((traceable.items Token.isCloseBracket .listSeparator).bind
      fun elements => traceable_ok (Expr.list elements)).advance before
  case h_7 name _ => exact traceable.named name before
  case h_8 => exact traced_fault .operand
  all_goals exact (traceable_ok _).advance before

theorem Traceable.power (base : Traceable (Parser.primary deeper))
    (exponent : Traceable deeper.signed) : Traceable (Parser.power deeper) := by
  refine base.bind fun value before => ?_
  dsimp only
  split
  · exact (exponent.nested (.binary .power value)).advance before
  · exact .ok .refl

theorem Traceable.signed (unsigned : Traceable (Parser.power deeper))
    (operand : Traceable deeper.signed) : Traceable (Parser.signed deeper) := by
  intro before
  rw [Parser.signed]
  split
  · exact (operand.nested (.unary .negate)).advance before
  · exact unsigned before

theorem Traceable.comparison (sum : Traceable (Parser.sum deeper)) :
    Traceable (Parser.comparison deeper) := by
  refine sum.bind fun left before => ?_
  dsimp only
  split
  · rename_i op _
    exact (sum.bind fun right => traceable_ok (Expr.compare op left right)).advance before
  · exact .ok .refl

theorem Traceable.negation (plain : Traceable (Parser.comparison deeper))
    (operand : Traceable deeper.negation) : Traceable (Parser.negation deeper) := by
  intro before
  rw [Parser.negation]
  split
  · exact (operand.nested (.unary .not)).advance before
  · exact plain before

theorem hereditary_traceable : Hereditary (fun _ _ => Traceable) fun _ _ => TraceableTail where
  refuse := fun _ => traced_tooDeep
  refuseTail := fun _ _ _ => traced_tooDeep
  chain := .chain
  chainTail := .chainTail
  primary := .primary
  power := .power
  signed := .signed
  comparison := .comparison
  negation := .negation

theorem traced_expression (room : Nat) (before : Cursor) :
    Traced before ((Level.withRoom room).expression before) :=
  (hereditary_traceable.withRoom room).expression before

end Grammar

/-- The front of some lexemes. -/
def Cursor.start (lexemes : List Lexeme) : Cursor := ⟨lexemes, 0, 0, maxNesting⟩

theorem Cursor.within_start {source : String} {lexemes : List Lexeme}
    (tokenized : tokenize source = .ok lexemes) : (start lexemes).Within lexemes where
  rest_eq := rfl
  closed := by
    obtain ⟨body, last, rfl, ended, -⟩ := tokenize_ends tokenized
    exact ⟨last, List.mem_append_right body List.mem_cons_self, by rw [ended]; rfl⟩

/-- A failure to read lexemes is about one that the productions reach. -/
theorem Expr.exists_reaches_of_ofLexemes {lexemes : List Lexeme} {fault : SyntaxFault}
    (failed : Expr.ofLexemes lexemes = .error fault) :
    ∃ place, (Cursor.start lexemes).Reaches place ∧
      fault.position = place.lexeme.position ∧ fault.text = place.lexeme.text := by
  have traced := Grammar.traced_expression maxNesting (Cursor.start lexemes)
  rcases Outcome.bind_eq_error.mp failed with failed | ⟨⟨tree, after⟩, run, failed⟩
  · rw [Cursor.start, failed] at traced
    cases traced with
    | error reaches position_eq text_eq => exact ⟨_, reaches, position_eq, text_eq⟩
  · rw [Cursor.start, run] at traced
    cases traced with
    | ok reaches =>
        dsimp only at failed
        split at failed <;> cases failed
        exact ⟨after, reaches, rfl, rfl⟩

end Assay
