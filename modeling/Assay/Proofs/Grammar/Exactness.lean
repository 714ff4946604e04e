import Assay.Proofs.Expr.Lexemes
import Assay.Proofs.Grammar.Completeness

/-!
# The language that is read

A source is read as a tree exactly if its tokens derive the tree without demanding too many levels,
and tokens derive one tree at most. A derivation that demands too many levels is always reported
as too deep.
-/

namespace Assay
namespace Grammar

open Cursor Outcome

variable {accepts : Builtin → Nat → Bool} {tokens : List Token} {tree : Expr} {demand : Nat}

theorem passes_lexemes {body rest : List Lexeme} {index depth limit : Nat}
    (unfinished : ∀ lexeme ∈ body, lexeme.token.isFinish = false) :
    Passes ⟨body ++ rest, index, depth, limit⟩ (body.map Lexeme.token)
      ⟨rest, index + body.length, depth, limit⟩ := by
  induction body generalizing index with
  | nil => rfl
  | cons lexeme body ih =>
      obtain ⟨here, unfinished⟩ := List.forall_mem_cons.mp unfinished
      refine ⟨rfl, here, ?_⟩
      rw [List.cons_append, advance_cons here, List.length_cons, ← Nat.add_assoc,
        Nat.add_right_comm]
      exact ih unfinished

/-- Only the tokens before the end lead there. -/
theorem passes_unique {before last other : Cursor} {front back : List Token}
    (first : before.Passes front last) (second : before.Passes back other)
    (ended : last.token.isFinish = true) (ended_other : other.token.isFinish = true) :
    front = back := by
  induction front generalizing before back with
  | nil =>
      rw [← passes_nil.mp first] at ended
      cases back with
      | nil => rfl
      | cons token back =>
          rw [second.1, second.2.1] at ended
          cases ended
  | cons token front ih =>
      obtain ⟨stands, unfinished, first⟩ := first
      cases back with
      | nil =>
          rw [← passes_nil.mp second, stands, unfinished] at ended_other
          cases ended_other
      | cons token back =>
          rw [ih first second.2.2, ← stands, second.1]

/-- The tokens of some lexemes, which have the end of a source after them. -/
def Spells (lexemes : List Lexeme) (tokens : List Token) : Prop :=
  ∀ limit, ∃ last, Passes ⟨lexemes, 0, 0, limit⟩ tokens last ∧ last.token.isFinish = true

theorem spells_of_finish {body : List Lexeme}
    (unfinished : ∀ lexeme ∈ body, lexeme.token.isFinish = false) {last : Lexeme}
    (ended : last.token.isFinish = true) (rest : List Lexeme) :
    Spells (body ++ last :: rest) (body.map Lexeme.token) :=
  fun _ => ⟨_, passes_lexemes unfinished, ended⟩

theorem exists_spells {source : String} {lexemes : List Lexeme}
    (tokenized : tokenize source = .ok lexemes) :
    ∃ tokens, lexemes.map Lexeme.token = tokens ++ [.finish] ∧ Spells lexemes tokens := by
  obtain ⟨body, last, rfl, ended, unfinished⟩ := tokenize_ends tokenized
  have last_ended : last.token.isFinish = true := congrArg Token.isFinish ended
  exact ⟨body.map Lexeme.token, by simp [ended], spells_of_finish unfinished last_ended []⟩

/-- Lexemes of some tokens, wherever they stand. -/
def lexemesOf (tokens : List Token) : List Lexeme := tokens.map fun token => ⟨token, 0, []⟩

@[simp]
theorem map_token_lexemesOf : (lexemesOf tokens).map Lexeme.token = tokens := by
  simp [lexemesOf, Function.comp_def]

theorem endsBefore_finish {token : Token} (ended : token.isFinish = true) :
    Category.expression.EndsBefore token := by
  cases token <;> cases ended
  decide

variable {lexemes : List Lexeme}

theorem hasLevels_start (limit : Nat) : HasLevels ⟨lexemes, 0, 0, limit⟩ (limit + 1) :=
  Nat.zero_add _

theorem Derives.resolves (derives : Derives accepts .expression tokens tree demand)
    {limit : Nat} {last : Cursor} (passes : Passes ⟨lexemes, 0, 0, limit⟩ tokens last)
    (ended : last.token.isFinish = true) :
    Resolves accepts (demand < limit + 1)
      ((Level.withRoom limit).expression ⟨lexemes, 0, 0, limit⟩) (tree, last) :=
  (hereditary_complete.withRoom limit).expression (hasLevels_start _) derives passes
    (endsBefore_finish ended)

theorem Derives.settles (derives : Derives Builtin.takes .expression tokens tree demand)
    {limit : Nat} {last : Cursor} (passes : Passes ⟨lexemes, 0, 0, limit⟩ tokens last)
    (ended : last.token.isFinish = true) :
    Settles (demand < limit + 1) ((Level.withRoom limit).expression ⟨lexemes, 0, 0, limit⟩)
      (tree, last) :=
  (derives.resolves passes ended).settles rfl

/-- What demands more levels cannot be derived from the same tokens. -/
theorem Derives.demand_le (spells : Spells lexemes tokens)
    (derives : Derives Builtin.takes .expression tokens tree demand) {other : Expr} {rest : Nat}
    (second : Derives Builtin.takes .expression tokens other rest) : rest ≤ demand := by
  -- With just enough room for one derivation reading would succeed, and fail by the other.
  obtain ⟨last, passes, ended⟩ := spells demand
  have accepted := (derives.settles passes ended).1 (Nat.lt_succ_self demand)
  refine Nat.le_of_not_lt fun exceeds => ?_
  obtain ⟨place, refused⟩ := (second.settles passes ended).2 (by omega)
  rw [accepted] at refused
  cases refused

/-- The grammar is unambiguous. -/
theorem Derives.unique (spells : Spells lexemes tokens)
    (derives : Derives Builtin.takes .expression tokens tree demand) {other : Expr} {rest : Nat}
    (second : Derives Builtin.takes .expression tokens other rest) :
    tree = other ∧ demand = rest := by
  obtain rfl : demand = rest :=
    Nat.le_antisymm (second.demand_le spells derives) (derives.demand_le spells second)
  obtain ⟨last, passes, ended⟩ := spells demand
  have accepted := (derives.settles passes ended).1 (Nat.lt_succ_self demand)
  rw [(second.settles passes ended).1 (Nat.lt_succ_self demand)] at accepted
  cases accepted
  exact ⟨rfl, rfl⟩

theorem resolves_ofLexemes (spells : Spells lexemes tokens)
    (derives : Derives accepts .expression tokens tree demand) :
    Resolves accepts (demand ≤ maxNesting) (Expr.ofLexemes lexemes) tree := by
  obtain ⟨last, passes, ended⟩ := spells maxNesting
  have resolves := (derives.resolves passes ended).of_iff Nat.lt_succ_iff
  refine resolves.bind_ok ?_
  dsimp only
  rw [if_pos ended]
  rfl

theorem settles_ofLexemes (spells : Spells lexemes tokens)
    (derives : Derives Builtin.takes .expression tokens tree demand) :
    Settles (demand ≤ maxNesting) (Expr.ofLexemes lexemes) tree :=
  (resolves_ofLexemes spells derives).settles rfl

theorem derives_ofLexemes (spells : Spells lexemes tokens)
    (run : Expr.ofLexemes lexemes = .ok tree) :
    ∃ demand ≤ maxNesting, Derives Builtin.takes .expression tokens tree demand := by
  obtain ⟨⟨found, after⟩, run_expression, run⟩ := bind_eq_ok.mp run
  dsimp only at run
  split at run
  · rename_i ended
    cases run
    obtain ⟨front, demand, passes, derives, fits⟩ :=
      (hereditary_sound.withRoom maxNesting).expression (hasLevels_start _) run_expression
    obtain ⟨last, passes_all, ended_all⟩ := spells maxNesting
    rw [passes_unique passes passes_all ended ended_all] at derives
    exact ⟨demand, Nat.le_of_lt_succ fits, derives⟩
  · cases run

/-- What the tokens of a source derive is read off it. -/
theorem read_of_derives {source : String} (tokenized : tokenize source = .ok lexemes)
    (tokens_eq : lexemes.map Lexeme.token = tokens ++ [.finish])
    (derives : Derives Builtin.takes .expression tokens tree demand)
    (fits : demand ≤ maxNesting) : Expr.read source = .ok tree := by
  obtain ⟨others, others_eq, spells⟩ := exists_spells tokenized
  obtain rfl : tokens = others := List.append_cancel_right (tokens_eq.symm.trans others_eq)
  rw [Expr.read, tokenized]
  exact (settles_ofLexemes spells derives).1 fits

/-- Reading gives exactly the trees that are derived with no more levels than may be open, finds
too many levels open in what is derived with more, and nothing is derived in two ways. -/
theorem read_recognizes {source : String} (tokenized : tokenize source = .ok lexemes) :
    ∃ tokens, lexemes.map Lexeme.token = tokens ++ [.finish] ∧
      (∀ tree, Expr.read source = .ok tree ↔
        ∃ demand ≤ maxNesting, Derives Builtin.takes .expression tokens tree demand) ∧
      (∀ tree demand, maxNesting < demand →
        Derives Builtin.takes .expression tokens tree demand →
        ∃ place : Cursor, Expr.read source = .error place.tooDeep) ∧
      ∀ tree other demand rest, Derives Builtin.takes .expression tokens tree demand →
        Derives Builtin.takes .expression tokens other rest → tree = other ∧ demand = rest := by
  obtain ⟨tokens, tokens_eq, spells⟩ := exists_spells tokenized
  have read_eq : Expr.read source = Expr.ofLexemes lexemes := by
    rw [Expr.read, tokenized]
    rfl
  rw [read_eq]
  refine ⟨tokens, tokens_eq, fun tree => ⟨derives_ofLexemes spells, ?_⟩, ?_, ?_⟩
  · rintro ⟨demand, fits, derives⟩
    exact (settles_ofLexemes spells derives).1 fits
  · intro tree demand exceeds derives
    exact (settles_ofLexemes spells derives).2 (Nat.not_le.mpr exceeds)
  · intro tree other demand rest derives second
    exact derives.unique spells second

/-- In `-2^x.0` the power binds tighter than the minus before it. -/
theorem read_recognizes_power :
    ∃ lexemes, tokenize "-2^x.0" = .ok lexemes ∧
      lexemes.map Lexeme.token =
        [.minus, .int 2, .caret, .name "x", .dot, .int 0, .finish] ∧
      ∃ demand ≤ maxNesting, Derives Builtin.takes .expression
        [.minus, .int 2, .caret, .name "x", .dot, .int 0]
        (.unary .negate
          (.binary .power (.literal (.int 2)) (.reference ⟨"x", [.index 0]⟩))) demand := by
  have tokenized : tokenize "-2^x.0" = .ok
      [⟨.minus, 0, ['-']⟩, ⟨.int 2, 1, ['2']⟩, ⟨.caret, 2, ['^']⟩, ⟨.name "x", 3, ['x']⟩,
        ⟨.dot, 4, ['.']⟩, ⟨.int 0, 5, ['0']⟩, ⟨.finish, 6, []⟩] := by
    with_unfolding_all rfl
  have read : Expr.read "-2^x.0" = .ok (.unary .negate
      (.binary .power (.literal (.int 2)) (.reference ⟨"x", [.index 0]⟩))) := by
    with_unfolding_all rfl
  obtain ⟨tokens, tokens_eq, accepted, _⟩ := read_recognizes tokenized
  obtain rfl : [.minus, .int 2, .caret, .name "x", .dot, .int 0] = tokens :=
    List.append_cancel_right tokens_eq
  exact ⟨_, tokenized, rfl, (accepted _).mp read⟩

end Grammar
end Assay
