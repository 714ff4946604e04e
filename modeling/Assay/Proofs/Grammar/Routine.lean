import Mathlib.Logic.Relation
import Assay.Proofs.Grammar.Passage
import Assay.Proofs.Outcome

/-!
# Routines

A routine makes one move after the other at a cursor. It goes past a token, opens a level or closes
levels, and which move comes next depends on what stands there. The run of a routine is a
production, and its steps show the places in between, with the levels that are open there.

A routine that closes the levels that it opens, and no others, leaves the levels alone that are
open where it starts. That depends on the moves on each of its branches only, and one routine after
another keeps to it if both do.
-/

namespace Assay
namespace Grammar

/-- What a routine does at a cursor. -/
inductive Move where
  /-- It goes past the token there. -/
  | advance
  /-- It opens a level. -/
  | enter
  /-- It closes levels. -/
  | leave (levels : Nat)

/-- The place to which a move leads. There may be no room for another level. -/
def Move.apply : Move → Cursor → Except SyntaxFault Cursor
  | .advance, cursor => .ok cursor.advance
  | .enter, cursor => cursor.enter
  | .leave levels, cursor => .ok (cursor.leave levels)

/-- Moves one after the other, to an end or a failure. -/
inductive Routine (α : Type) where
  /-- The end, with what comes of it. -/
  | done (value : α)
  /-- A failure. -/
  | fail (fault : SyntaxFault)
  /-- What depends on the place. -/
  | look (next : Cursor → Routine α)
  /-- A move and what follows it. -/
  | go (move : Move) (next : Routine α)

namespace Routine

variable {α β : Type}

/-- A routine and another one after it. -/
def bind : Routine α → (α → Routine β) → Routine β
  | done value, next => next value
  | fail fault, _ => fail fault
  | look choice, next => look fun cursor => (choice cursor).bind next
  | go move others, next => go move (others.bind next)

instance : Monad Routine where
  pure := done
  bind := bind

/-- The place where a routine is. -/
def here : Routine Cursor := look done

/-- The token at the place. -/
def token : Routine Token := look fun cursor => done cursor.token

/-- A single move. -/
def move (move : Move) : Routine Unit := go move (done ())

/-- The failure to find what was expected. -/
def fault (expected : Expected) : Routine α := look fun cursor => fail (cursor.fault expected)

/-- The production that makes the moves of a routine. -/
def run : Routine α → Production α
  | done value, cursor => .ok (value, cursor)
  | fail fault, _ => .error fault
  | look next, cursor => (next cursor).run cursor
  | go move next, cursor => move.apply cursor >>= next.run

section Run

variable {routine : Routine α} {next : α → Routine β} {cursor : Cursor}

@[simp]
theorem run_pure (value : α) : (pure value : Routine α).run cursor = .ok (value, cursor) := rfl

theorem run_bind : (routine >>= next).run cursor =
    routine.run cursor >>= fun result => (next result.1).run result.2 := by
  change (routine.bind next).run cursor = _
  induction routine generalizing cursor with
  | done => rfl
  | fail => rfl
  | look choice ih => exact ih cursor
  | go move others ih =>
      simp only [bind, run]
      cases move.apply cursor with
      | error => rfl
      | ok after => exact ih

@[simp]
theorem run_here_bind {next : Cursor → Routine β} :
    (here >>= next).run cursor = (next cursor).run cursor := rfl

@[simp]
theorem run_token_bind {next : Token → Routine β} :
    (token >>= next).run cursor = (next cursor.token).run cursor := rfl

@[simp]
theorem run_advance_bind {next : Unit → Routine β} :
    (move .advance >>= next).run cursor = (next ()).run cursor.advance := rfl

@[simp]
theorem run_enter_bind {next : Unit → Routine β} :
    (move .enter >>= next).run cursor = cursor.enter >>= (next ()).run := rfl

@[simp]
theorem run_leave_bind {levels : Nat} {next : Unit → Routine β} :
    (move (.leave levels) >>= next).run cursor = (next ()).run (cursor.leave levels) := rfl

@[simp]
theorem run_fail (failure : SyntaxFault) : (fail failure : Routine α).run cursor = .error failure :=
  rfl

@[simp]
theorem run_fault (expected : Expected) :
    (fault expected : Routine α).run cursor = .error (cursor.fault expected) := rfl

/-- The run of a routine that depends on a condition. -/
theorem run_ite {condition : Prop} [Decidable condition] {first second : Routine α} :
    (if condition then first else second).run cursor =
      if condition then first.run cursor else second.run cursor :=
  apply_ite (fun routine : Routine α => routine.run cursor) condition first second

end Run

/-! ## Steps -/

/-- How far a routine has come: what is left of it, and where. -/
structure State (α : Type) where
  /-- The rest of the routine. -/
  routine : Routine α
  /-- The place. -/
  cursor : Cursor

namespace State

/-- One step of a routine. -/
inductive Step : State α → State α → Prop where
  /-- It decides by the place. -/
  | look {next : Cursor → Routine α} {cursor : Cursor} :
      Step ⟨.look next, cursor⟩ ⟨next cursor, cursor⟩
  /-- It makes a move. -/
  | go {move : Move} {next : Routine α} {cursor after : Cursor}
      (moves : move.apply cursor = .ok after) : Step ⟨.go move next, cursor⟩ ⟨next, after⟩

/-- Steps lead from one state to another. -/
def Reaches : State α → State α → Prop := Relation.ReflTransGen Step

/-- What comes of a routine that cannot go on. -/
inductive Stops : State α → Except SyntaxFault (α × Cursor) → Prop where
  /-- It is at its end. -/
  | done {value : α} {cursor : Cursor} : Stops ⟨.done value, cursor⟩ (.ok (value, cursor))
  /-- It fails. -/
  | fail {fault : SyntaxFault} {cursor : Cursor} : Stops ⟨.fail fault, cursor⟩ (.error fault)
  /-- Its move leads nowhere. -/
  | refused {move : Move} {next : Routine α} {cursor : Cursor} {fault : SyntaxFault}
      (refused : move.apply cursor = .error fault) : Stops ⟨.go move next, cursor⟩ (.error fault)

/-- The steps of a routine lead to where it stops with the outcome of its run. -/
theorem exists_stops_run (routine : Routine α) (cursor : Cursor) :
    ∃ state, Reaches ⟨routine, cursor⟩ state ∧ state.Stops (routine.run cursor) := by
  induction routine generalizing cursor with
  | done => exact ⟨_, .refl, .done⟩
  | fail => exact ⟨_, .refl, .fail⟩
  | look next ih =>
      obtain ⟨state, reaches, stops⟩ := ih cursor cursor
      exact ⟨state, .head .look reaches, stops⟩
  | go move next ih =>
      rw [run]
      cases moves : move.apply cursor with
      | error fault => exact ⟨_, .refl, .refused moves⟩
      | ok after =>
          obtain ⟨state, reaches, stops⟩ := ih after
          exact ⟨state, .head (.go moves) reaches, stops⟩

end State

/-! ## Levels -/

/-- A routine closes the levels that it opens, and a given number of others on top of them. One
that fails may leave levels open. -/
inductive Closes : Nat → Routine α → Prop where
  /-- At the end all of them have been closed. -/
  | done (value : α) : Closes 0 (.done value)
  /-- A failure ends the reading. -/
  | fail (levels : Nat) (fault : SyntaxFault) : Closes levels (.fail fault)
  /-- Wherever it is, it closes the levels. -/
  | look {levels : Nat} {next : Cursor → Routine α}
      (closes : ∀ cursor, Closes levels (next cursor)) : Closes levels (.look next)
  /-- A token has no effect on the levels. -/
  | advance {levels : Nat} {next : Routine α} (closes : Closes levels next) :
      Closes levels (.go .advance next)
  /-- One level more has to be closed. -/
  | enter {levels : Nat} {next : Routine α} (closes : Closes (levels + 1) next) :
      Closes levels (.go .enter next)
  /-- Some levels less have to be closed. -/
  | leave {levels count : Nat} {next : Routine α} (closes : Closes levels next) :
      Closes (count + levels) (.go (.leave count) next)

section Closes

variable {levels : Nat} {routine : Routine α} {next : α → Routine β}

theorem Closes.append {others : Nat} (first : Closes levels routine)
    (second : ∀ value, Closes others (next value)) :
    Closes (others + levels) (routine >>= next) := by
  change Closes (others + levels) (routine.bind next)
  induction first with
  | done value => exact second value
  | fail levels failure => exact .fail _ failure
  | look _ ih => exact .look ih
  | advance _ ih => exact .advance ih
  | enter _ ih => exact .enter ih
  | leave _ ih =>
      rw [Nat.add_left_comm]
      exact .leave ih

/-- A routine that closes what it opens may come first. -/
theorem Closes.bind (first : Closes 0 routine) (second : ∀ value, Closes levels (next value)) :
    Closes levels (routine >>= next) := first.append second

theorem closes_pure (value : α) : Closes 0 (pure value : Routine α) := .done value

theorem closes_here : Closes 0 here := .look .done

theorem closes_token : Closes 0 token := .look fun cursor => .done cursor.token

theorem closes_fault (expected : Expected) : Closes levels (fault expected : Routine α) :=
  .look fun cursor => .fail levels (cursor.fault expected)

theorem Closes.advanced {next : Unit → Routine β} (closes : Closes levels (next ())) :
    Closes levels (move .advance >>= next) := .advance closes

theorem Closes.entered {next : Unit → Routine β} (closes : Closes (levels + 1) (next ())) :
    Closes levels (move .enter >>= next) := .enter closes

theorem Closes.left {next : Unit → Routine β} (closes : Closes 0 (next ())) :
    Closes levels (move (.leave levels) >>= next) := .leave closes

end Closes

namespace State

variable {base : Nat} {state next : State α}

/-- Some levels are open at the bottom, and what is left to do closes all those above them. -/
def Balanced (base : Nat) (state : State α) : Prop :=
  ∃ levels, Closes levels state.routine ∧ state.cursor.depth = base + levels

theorem Step.balanced (step : Step state next) (balanced : state.Balanced base) :
    next.Balanced base := by
  obtain ⟨levels, closes, depth_eq⟩ := balanced
  cases step with
  | look =>
      cases closes with
      | look closes => exact ⟨levels, closes _, depth_eq⟩
  | @go move _ cursor after moves =>
      cases closes with
      | advance closes =>
          cases moves
          exact ⟨levels, closes, by rw [Cursor.depth_advance]; exact depth_eq⟩
      | enter closes =>
          rw [Move.apply, Cursor.enter_eq] at moves
          split at moves <;> cases moves
          exact ⟨levels + 1, closes, congrArg (· + 1) depth_eq⟩
      | @leave remaining count _ closes =>
          -- What is closed now is part of what the routine has to close.
          cases moves
          refine ⟨remaining, closes, ?_⟩
          dsimp only at depth_eq ⊢
          rw [Cursor.leave, depth_eq]
          dsimp only
          omega

theorem Reaches.balanced (reaches : Reaches state next) (balanced : state.Balanced base) :
    next.Balanced base := by
  induction reaches with
  | refl => exact balanced
  | tail _ step ih => exact step.balanced ih

theorem Balanced.le_depth (balanced : state.Balanced base) : base ≤ state.cursor.depth := by
  obtain ⟨levels, -, depth_eq⟩ := balanced
  exact depth_eq ▸ Nat.le_add_right base levels

/-- Levels that are closed next are open above those at the bottom. -/
theorem Balanced.leave_le {levels : Nat} {routine : Routine α} {cursor : Cursor}
    (balanced : Balanced base ⟨.go (.leave levels) routine, cursor⟩) :
    base + levels ≤ cursor.depth := by
  obtain ⟨_, closes, depth_eq⟩ := balanced
  cases closes with
  | @leave remaining =>
      dsimp only at depth_eq
      omega

theorem Balanced.depth_of_done {value : α} {cursor : Cursor}
    (balanced : Balanced base ⟨.done value, cursor⟩) : cursor.depth = base := by
  obtain ⟨_, closes, depth_eq⟩ := balanced
  cases closes
  exact depth_eq

end State

end Routine

end Grammar
end Assay
