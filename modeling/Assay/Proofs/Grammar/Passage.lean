import Assay.Expr.Parser
import Assay.Proofs.Grammar

/-!
# Passing tokens

A cursor passes some tokens when they stand at it, one after the other and before the end. Reading
is described by the tokens that it passes. Opening and closing levels does not interfere with that.
-/

namespace Assay
namespace Cursor

/-- From one cursor on, the given tokens lead to another one. -/
def Passes : Cursor → List Token → Cursor → Prop
  | before, [], after => before = after
  | before, token :: tokens, after =>
      before.token = token ∧ token.isFinish = false ∧ before.advance.Passes tokens after

/-- The same place with one more level open. -/
def opened (cursor : Cursor) : Cursor := { cursor with depth := cursor.depth + 1 }

variable {before middle after cursor : Cursor} {token : Token} {tokens front back : List Token}

@[simp]
theorem passes_nil : before.Passes [] after ↔ before = after := Iff.rfl

@[simp]
theorem passes_cons : before.Passes (token :: tokens) after ↔
    before.token = token ∧ token.isFinish = false ∧ before.advance.Passes tokens after := Iff.rfl

theorem passes_append : before.Passes (front ++ back) after ↔
    ∃ middle, before.Passes front middle ∧ middle.Passes back after := by
  induction front generalizing before with
  | nil => simp
  | cons token front ih => simp [ih, and_assoc]

theorem Passes.append (first : before.Passes front middle) (second : middle.Passes back after) :
    before.Passes (front ++ back) after :=
  passes_append.mpr ⟨middle, first, second⟩

theorem advance_cons {lexeme : Lexeme} {rest : List Lexeme} {index depth limit : Nat}
    (unfinished : lexeme.token.isFinish = false) :
    advance ⟨lexeme :: rest, index, depth, limit⟩ = ⟨rest, index + 1, depth, limit⟩ := by
  simp [advance, unfinished]

/-- The lexeme of the first token that is passed, with the lexemes after it. -/
theorem Passes.exists_rest {lexemes : List Lexeme} {index depth limit : Nat}
    (passes : Passes ⟨lexemes, index, depth, limit⟩ (token :: tokens) after) :
    ∃ position text rest, lexemes = ⟨token, position, text⟩ :: rest ∧
      Passes ⟨rest, index + 1, depth, limit⟩ tokens after := by
  obtain ⟨rfl, unfinished, passes⟩ := passes
  cases lexemes with
  | nil => cases unfinished
  | cons lexeme rest =>
      have here : lexeme.token.isFinish = false := unfinished
      rw [advance_cons here] at passes
      exact ⟨lexeme.position, lexeme.text, rest, rfl, passes⟩

@[simp]
theorem depth_advance : cursor.advance.depth = cursor.depth := by
  rw [advance]
  split
  · rfl
  · split <;> rfl

@[simp]
theorem limit_advance : cursor.advance.limit = cursor.limit := by
  rw [advance]
  split
  · rfl
  · split <;> rfl

theorem Passes.length (passes : before.Passes tokens after) :
    before.rest.length = tokens.length + after.rest.length := by
  induction tokens generalizing before with
  | nil => simp [passes_nil.mp passes]
  | cons token tokens ih =>
      obtain ⟨lexemes, index, depth, limit⟩ := before
      obtain ⟨position, text, rest, rfl, later⟩ := passes.exists_rest
      have length_eq := ih later
      simp only [List.length_cons] at length_eq ⊢
      omega

/-! ## Levels -/

@[simp]
theorem token_opened : cursor.opened.token = cursor.token := rfl

@[simp]
theorem depth_opened : cursor.opened.depth = cursor.depth + 1 := rfl

@[simp]
theorem limit_opened : cursor.opened.limit = cursor.limit := rfl

@[simp]
theorem leave_zero : cursor.leave 0 = cursor := rfl

@[simp]
theorem leave_opened (levels : Nat) : cursor.opened.leave (levels + 1) = cursor.leave levels := by
  simp [leave, opened]

@[simp]
theorem advance_leave (levels : Nat) :
    (cursor.leave levels).advance = cursor.advance.leave levels := by
  obtain ⟨rest, index, depth, limit⟩ := cursor
  cases rest with
  | nil => rfl
  | cons lexeme rest => cases ended : lexeme.token.isFinish <;> simp [advance, leave, ended]

@[simp]
theorem advance_opened : cursor.opened.advance = cursor.advance.opened := by
  obtain ⟨rest, index, depth, limit⟩ := cursor
  cases rest with
  | nil => rfl
  | cons lexeme rest => cases ended : lexeme.token.isFinish <;> simp [advance, opened, ended]

/-- The same tokens stand there when levels are closed. -/
theorem Passes.leave (passes : before.Passes tokens after) (levels : Nat) :
    (before.leave levels).Passes tokens (after.leave levels) := by
  induction tokens generalizing before with
  | nil => rw [passes_nil.mp passes]; rfl
  | cons token tokens ih =>
      refine ⟨passes.1, passes.2.1, ?_⟩
      rw [advance_leave]
      exact ih passes.2.2

/-- The same tokens stand there when a level is opened. -/
theorem Passes.opened (passes : before.Passes tokens after) :
    before.opened.Passes tokens after.opened := by
  induction tokens generalizing before with
  | nil => rw [passes_nil.mp passes]; rfl
  | cons token tokens ih =>
      refine ⟨passes.1, passes.2.1, ?_⟩
      rw [advance_opened]
      exact ih passes.2.2

/-- What is passed below one more level is passed without it. -/
theorem Passes.closed (passes : before.opened.Passes tokens after) :
    before.Passes tokens (after.leave 1) := by
  have outside := passes.leave 1
  rwa [leave_opened, leave_zero] at outside

/-- The levels that are left at a cursor are some number, which counts the one that is open
already. -/
def HasLevels (cursor : Cursor) (levels : Nat) : Prop := cursor.depth + levels = cursor.limit + 1

variable {levels : Nat}

theorem HasLevels.advance (budget : cursor.HasLevels levels) : cursor.advance.HasLevels levels := by
  rwa [HasLevels, depth_advance, limit_advance]

theorem HasLevels.opened (budget : cursor.HasLevels (levels + 1)) :
    cursor.opened.HasLevels levels := by
  rw [HasLevels] at budget ⊢
  rw [depth_opened, limit_opened]
  omega

theorem HasLevels.passes (budget : before.HasLevels levels) (passes : before.Passes tokens after) :
    after.HasLevels levels := by
  induction tokens generalizing before with
  | nil => rwa [← passes_nil.mp passes]
  | cons token tokens ih => exact ih budget.advance passes.2.2

theorem enter_eq : cursor.enter =
    if cursor.depth < cursor.limit then .ok cursor.opened else .error cursor.tooDeep := rfl

end Cursor
end Assay
