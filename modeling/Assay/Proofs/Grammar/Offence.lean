import Assay.Proofs.Grammar.Exactness
import Assay.Proofs.Grammar.Viability

/-!
# The first token that fits no expression

A source that is refused for a token is refused for the first token with which it is no longer the
start of an expression. The tokens before it could still be completed: whatever they were completed
to, reading would stop at the same token in the same way if that one came next.
-/

namespace Assay
namespace Grammar

open Cursor Outcome

/-- Some tokens are an expression, whatever it demands and however many arguments its calls have. -/
def IsExpression (tokens : List Token) : Prop := ∃ tree, Phrase .expression tree tokens

/-- An expression and the end of the source. -/
def wholly : Production Expr := fun cursor => do
  let (tree, after) ← (Level.withRoom maxNesting).expression cursor
  if after.token.isFinish then return (tree, after) else .error (after.fault .operatorOrEnd)

theorem reads_wholly : Reads (Phrase .expression) wholly := by
  intro before closed
  have reads := (hereditary_reads.withRoom maxNesting).expression closed
  have completed (tree : Expr) (front : List Token) (is_phrase : Phrase .expression tree front) :
      Phrase .expression tree (front ++ []) := by rwa [List.append_nil]
  refine reads.bind closed (fun tree front is_phrase => ⟨_, _, completed tree front is_phrase⟩) ?_
  intro tree front middle is_phrase closed_middle _
  by_cases ended : middle.token.isFinish = true
  · refine ReadsAt.congr closed_middle (fun cursor => .ok (tree, cursor.leave 0)) ?_
      (readsAt_leave 0 (completed tree front is_phrase))
    intro tail _ same
    dsimp only
    rw [token_on_eq same, if_pos ended]
    rfl
  · refine ReadsAt.congr closed_middle (fun cursor => .error (cursor.fault .operatorOrEnd)) ?_
      (readsAt_fault closed_middle (completed tree front is_phrase))
    intro tail _ same
    dsimp only
    rw [token_on_eq same, if_neg ended]

variable {lexemes body rest : List Lexeme} {lexeme : Lexeme} {fault : SyntaxFault}

theorem ofLexemes_eq_map :
    Expr.ofLexemes lexemes = (wholly ⟨lexemes, 0, 0, maxNesting⟩).map Prod.fst := by
  rw [Expr.ofLexemes, wholly]
  cases (Level.withRoom maxNesting).expression ⟨lexemes, 0, 0, maxNesting⟩ with
  | error failure => rfl
  | ok pair =>
      simp only [Bind.bind, Except.bind]
      split <;> rfl

theorem ofLexemes_eq_error_iff : Expr.ofLexemes lexemes = .error fault ↔
    wholly ⟨lexemes, 0, 0, maxNesting⟩ = .error fault := by
  rw [ofLexemes_eq_map]
  exact map_eq_error

/-- What is an expression is refused for no token of it nor for its end. -/
theorem IsExpression.not_refused {tokens : List Token} (expression : IsExpression tokens)
    (spells : Spells lexemes tokens) (failed : Expr.ofLexemes lexemes = .error fault) :
    fault.expected.concernsToken = false := by
  obtain ⟨tree, demand, derives⟩ := expression
  rcases (resolves_ofLexemes spells derives).limits with accepted | ⟨_, refused, limit⟩
  · cases accepted.symm.trans failed
  · cases refused.symm.trans failed
    rcases limit with limit | limit <;> rw [limit] <;> rfl

theorem IsExpression.unfinished {tokens : List Token} (expression : IsExpression tokens) :
    ∀ token ∈ tokens, token.isFinish = false := by
  obtain ⟨_, _, derives⟩ := expression
  exact derives.unfinished

theorem Hinges.ofLexemes_eq_error
    (hinges : Hinges wholly ⟨lexemes, 0, 0, maxNesting⟩ body (lexeme :: rest)
      fun _ => .error fault) {tail : List Lexeme} (closed : Closed (lexeme :: tail)) :
    Expr.ofLexemes (body ++ lexeme :: tail) = .error fault :=
  ofLexemes_eq_error_iff.mpr (hinges.settled (lexeme :: tail) closed rfl)

/-- With the offending token the source is no longer the start of an expression. -/
theorem Hinges.not_isExpression
    (hinges : Hinges wholly ⟨lexemes, 0, 0, maxNesting⟩ body (lexeme :: rest)
      fun _ => .error fault) (concerns : fault.expected.concernsToken = true)
    (more : List Token) :
    ¬IsExpression (body.map Lexeme.token ++ lexeme.token :: more) := by
  intro expression
  -- The parser would stop at the token in the same way in a source of these tokens.
  have tokens_eq : (body ++ lexeme :: lexemesOf more).map Lexeme.token =
      body.map Lexeme.token ++ lexeme.token :: more := by simp
  have unfinished : Unfinished (body ++ lexeme :: lexemesOf more) := by
    intro passed mem
    refine expression.unfinished passed.token ?_
    rw [← tokens_eq]
    exact List.mem_map_of_mem mem
  let last : Lexeme := ⟨.finish, 0, []⟩
  have spells := spells_of_finish unfinished (rfl : last.token.isFinish = true) []
  rw [tokens_eq, List.append_assoc, List.cons_append] at spells
  have closed : Closed (lexeme :: (lexemesOf more ++ [last])) := ⟨last, by simp, rfl⟩
  have kept := expression.not_refused spells (hinges.ofLexemes_eq_error closed)
  rw [concerns] at kept
  cases kept

/-- A source that is refused for a token is refused for the first one with which it is no longer the
start of an expression, or for its end if it is only the start of one. -/
theorem read_refuses_first {source : String} (tokenized : tokenize source = .ok lexemes)
    (refused : Expr.read source = .error fault) (concerns : fault.expected.concernsToken = true) :
    ∃ body lexeme rest, lexemes = body ++ lexeme :: rest ∧ lexeme.position = fault.position ∧
      (∀ other ∈ body ++ rest, other.position ≠ fault.position) ∧
      (∃ more, IsExpression (body.map Lexeme.token ++ more)) ∧
      if lexeme.token.isFinish then ¬IsExpression (body.map Lexeme.token)
      else ∀ more, ¬IsExpression (body.map Lexeme.token ++ lexeme.token :: more) := by
  have failed : Expr.ofLexemes lexemes = .error fault := by
    rw [Expr.read, tokenized] at refused
    exact refused
  have closed : Closed lexemes := by
    obtain ⟨body, last, rfl, ended, _⟩ := tokenize_ends tokenized
    exact ⟨last, by simp, by rw [ended]; rfl⟩
  have reads : ReadsAt (Phrase .expression) wholly ⟨lexemes, 0, 0, maxNesting⟩ :=
    reads_wholly closed
  obtain ⟨body, lexeme, rest, position_eq, hinges, more, tree, is_phrase⟩ :=
    reads.error (ofLexemes_eq_error_iff.mp failed) concerns
  obtain rfl : lexemes = body ++ lexeme :: rest := hinges.split
  refine ⟨body, lexeme, rest, rfl, position_eq, ?_, ⟨more, tree, is_phrase⟩, ?_⟩
  · obtain ⟨_, later, earlier⟩ := List.pairwise_append.mp (tokenize_positions tokenized)
    intro other mem same
    rw [← position_eq] at same
    rcases List.mem_append.mp mem with before | after
    · exact Nat.ne_of_lt (earlier other before lexeme List.mem_cons_self) same
    · exact Nat.ne_of_gt ((List.pairwise_cons.mp later).1 other after) same
  · split
    · rename_i ended
      intro expression
      have spells := spells_of_finish hinges.unfinished ended rest
      have kept := expression.not_refused spells failed
      rw [concerns] at kept
      cases kept
    · exact hinges.not_isExpression concerns

/-- Comparisons do not chain, so the second one in the parentheses is refused. -/
theorem read_refuses_first_comparison :
    ∃ lexemes fault, tokenize "(a < b < c)" = .ok lexemes ∧
      Expr.read "(a < b < c)" = .error fault ∧ fault.expected = .closeParen ∧
      fault.position = 7 ∧
      ∃ body lexeme rest, lexemes = body ++ lexeme :: rest ∧ lexeme.position = fault.position ∧
        (∀ other ∈ body ++ rest, other.position ≠ fault.position) ∧
        (∃ more, IsExpression (body.map Lexeme.token ++ more)) ∧
        if lexeme.token.isFinish then ¬IsExpression (body.map Lexeme.token)
        else ∀ more, ¬IsExpression (body.map Lexeme.token ++ lexeme.token :: more) := by
  have tokenized : tokenize "(a < b < c)" = .ok
      [⟨.openParen, 0, ['(']⟩, ⟨.name "a", 1, ['a']⟩, ⟨.less, 3, ['<']⟩, ⟨.name "b", 5, ['b']⟩,
        ⟨.less, 7, ['<']⟩, ⟨.name "c", 9, ['c']⟩, ⟨.closeParen, 10, [')']⟩,
        ⟨.finish, 11, []⟩] := by
    with_unfolding_all rfl
  have refused : Expr.read "(a < b < c)" = .error
      { position := 7, expected := .closeParen, found := .comparison, text := ['<']
        atStart := false, call := none } := by
    with_unfolding_all rfl
  exact ⟨_, _, tokenized, refused, rfl, rfl, read_refuses_first tokenized refused rfl⟩

end Grammar
end Assay
