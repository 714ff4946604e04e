import Assay.Proofs.Grammar.Passage
import Assay.Proofs.Outcome

/-!
# One token of lookahead

What an action does at a cursor is settled by the lexemes that it passes and by the next one. The
same comes of it whatever stands behind that one, so a failure is about the first token with which
the source cannot go on. Actions of this kind can be composed, and what is known about the tokens
that their parts pass adds up.
-/

namespace Assay

/-- Whether the failure to find what was expected concerns the token at its place and no more. The
other failures concern a whole call, the levels that are open or the characters of a token. -/
def Expected.concernsToken : Expected → Bool
  | .operand | .operatorOrEnd | .closeParen | .listSeparator | .argumentSeparator | .segment => true
  | .function | .arity | .token | .shallower => false

namespace Cursor

/-- The end of the source stands among some lexemes. -/
def Closed (lexemes : List Lexeme) : Prop := ∃ lexeme ∈ lexemes, lexeme.token.isFinish = true

/-- No token of some lexemes is the end of the source. -/
def Unfinished (lexemes : List Lexeme) : Prop := ∀ lexeme ∈ lexemes, lexeme.token.isFinish = false

/-- The same place with other lexemes from there on. -/
def on (cursor : Cursor) (rest : List Lexeme) : Cursor := { cursor with rest }

variable {cursor : Cursor} {body rest tail front back : List Lexeme}

theorem Closed.ne_nil (closed : Closed rest) : rest ≠ [] := by
  rintro rfl
  obtain ⟨_, mem, _⟩ := closed
  cases mem

theorem Closed.append (body : List Lexeme) (closed : Closed rest) : Closed (body ++ rest) := by
  obtain ⟨lexeme, mem, ended⟩ := closed
  exact ⟨lexeme, List.mem_append_right body mem, ended⟩

theorem Closed.of_append (closed : Closed (body ++ rest)) (unfinished : Unfinished body) :
    Closed rest := by
  obtain ⟨lexeme, mem, ended⟩ := closed
  rcases List.mem_append.mp mem with passed | mem
  · exact absurd (unfinished lexeme passed) (by simp [ended])
  · exact ⟨lexeme, mem, ended⟩

theorem Unfinished.append (first : Unfinished front) (second : Unfinished back) :
    Unfinished (front ++ back) := fun lexeme mem =>
  (List.mem_append.mp mem).elim (first lexeme) (second lexeme)

/-- The lexemes from a cursor on, if the token there is not the end. -/
theorem exists_cons_of_unfinished (unfinished : cursor.token.isFinish = false) :
    ∃ lexeme rest, cursor.rest = lexeme :: rest ∧ lexeme.token = cursor.token ∧
      cursor.advance = { cursor with rest, index := cursor.index + 1 } := by
  obtain ⟨lexemes, index, depth, limit⟩ := cursor
  cases lexemes with
  | nil => cases unfinished
  | cons lexeme rest => exact ⟨lexeme, rest, rfl, rfl, advance_cons unfinished⟩

theorem length_advance_lt (unfinished : cursor.token.isFinish = false) :
    cursor.advance.rest.length < cursor.rest.length := by
  obtain ⟨lexeme, rest, rest_eq, _, advance_eq⟩ := exists_cons_of_unfinished unfinished
  rw [advance_eq, rest_eq]
  exact Nat.lt_succ_self _

theorem advance_on {lexeme : Lexeme} (unfinished : lexeme.token.isFinish = false) :
    (cursor.on (lexeme :: rest)).advance = { cursor with rest, index := cursor.index + 1 } :=
  advance_cons unfinished

theorem Closed.advance (closed : Closed cursor.rest) (unfinished : cursor.token.isFinish = false) :
    Closed cursor.advance.rest := by
  obtain ⟨lexeme, rest, rest_eq, token_eq, advance_eq⟩ := exists_cons_of_unfinished unfinished
  rw [advance_eq]
  rw [rest_eq] at closed
  have passed : Unfinished [lexeme] := List.forall_mem_singleton.mpr (token_eq ▸ unfinished)
  exact closed.of_append passed

theorem token_on_eq (same : (cursor.on tail).lexeme = cursor.lexeme) :
    (cursor.on tail).token = cursor.token := congrArg Lexeme.token same

/-- The lexeme at a place is the first one from there on. -/
theorem lexeme_on_eq (same : tail.head? = cursor.rest.head?) :
    (cursor.on tail).lexeme = cursor.lexeme := by
  simp only [lexeme, on, List.headD_eq_head?_getD, same]

theorem head?_append_eq (same : tail.head? = rest.head?) :
    (body ++ tail).head? = (body ++ rest).head? := by
  rw [List.head?_append, List.head?_append, same]

end Cursor

namespace Grammar

open Cursor Outcome

variable {α β : Type}

/-- An action at a cursor passes some lexemes, and what comes of it is the same for all lexemes
that may stand from there on with the same first one. -/
structure Hinges (action : Production α) (before : Cursor) (body rest : List Lexeme)
    (outcome : List Lexeme → Except SyntaxFault (α × Cursor)) : Prop where
  split : before.rest = body ++ rest
  unfinished : Unfinished body
  settled : ∀ tail, Closed tail → tail.head? = rest.head? →
    action (before.on (body ++ tail)) = outcome tail

section Hinges

variable {action other : Production α} {next : α × Cursor → Except SyntaxFault (β × Cursor)}
  {before middle : Cursor} {body front back rest : List Lexeme} {value : α}
  {outcome : List Lexeme → Except SyntaxFault (α × Cursor)}
  {result : List Lexeme → Except SyntaxFault (β × Cursor)}

theorem Hinges.closed (hinges : Hinges action before body rest outcome)
    (closed : Closed before.rest) : Closed rest := by
  rw [hinges.split] at closed
  exact closed.of_append hinges.unfinished

theorem Hinges.length_le (hinges : Hinges action before body rest outcome) :
    rest.length ≤ before.rest.length := by
  rw [hinges.split, List.length_append]
  exact Nat.le_add_left _ _

/-- The next action starts with the token at which the first one stops. -/
theorem Hinges.bind
    (first : Hinges action before front middle.rest fun tail => .ok (value, middle.on tail))
    (second : Hinges (fun cursor => next (value, cursor)) middle back rest result) :
    Hinges (fun cursor => action cursor >>= next) before (front ++ back) rest result where
  split := by rw [first.split, second.split, List.append_assoc]
  unfinished := first.unfinished.append second.unfinished
  settled := by
    intro tail closed same
    have same_middle : (back ++ tail).head? = middle.rest.head? := by
      rw [second.split]
      exact head?_append_eq same
    rw [List.append_assoc, first.settled _ (closed.append back) same_middle]
    exact second.settled tail closed same

theorem Hinges.bind_error {fault : SyntaxFault}
    (first : Hinges action before body rest fun _ => .error fault) :
    Hinges (fun cursor => action cursor >>= next) before body rest fun _ => .error fault where
  split := first.split
  unfinished := first.unfinished
  settled := by
    intro tail closed same
    rw [first.settled tail closed same]
    rfl

/-- Actions do the same if they agree wherever the lexeme is the one at a cursor. -/
theorem Hinges.congr
    (same : ∀ tail, Closed tail → (before.on tail).lexeme = before.lexeme →
      action (before.on tail) = other (before.on tail))
    (hinges : Hinges other before body rest outcome) :
    Hinges action before body rest outcome where
  split := hinges.split
  unfinished := hinges.unfinished
  settled := by
    intro tail closed same_head
    have same_lexeme : (before.on (body ++ tail)).lexeme = before.lexeme := by
      refine lexeme_on_eq ?_
      rw [hinges.split]
      exact head?_append_eq same_head
    rw [same _ (closed.append body) same_lexeme]
    exact hinges.settled tail closed same_head

theorem Hinges.advance (unfinished : before.token.isFinish = false)
    (hinges : Hinges action before.advance body rest outcome) :
    ∃ lexeme, lexeme.token = before.token ∧
      Hinges (fun cursor => action cursor.advance) before (lexeme :: body) rest outcome := by
  obtain ⟨lexeme, later, rest_eq, token_eq, advance_eq⟩ := exists_cons_of_unfinished unfinished
  rw [← token_eq] at unfinished
  have split : later = body ++ rest := by simpa only [advance_eq] using hinges.split
  refine ⟨lexeme, token_eq, ⟨?_, List.forall_mem_cons.mpr ⟨unfinished, hinges.unfinished⟩, ?_⟩⟩
  · rw [rest_eq, split, List.cons_append]
  · intro tail closed same
    rw [List.cons_append, advance_on unfinished]
    have settled := hinges.settled tail closed same
    rw [advance_eq] at settled
    exact settled

end Hinges

/-- An action hinges on the next token, both where it succeeds and where it fails to find what was
expected of that token. The tokens that it passes are a phrase of what it gives, or they can be
completed to a phrase. -/
structure ReadsAt (phrase : α → List Token → Prop) (action : Production α) (before : Cursor) :
    Prop where
  ok : ∀ {value : α} {after : Cursor}, action before = .ok (value, after) →
    ∃ body, Hinges action before body after.rest (fun tail => .ok (value, after.on tail)) ∧
      phrase value (body.map Lexeme.token)
  error : ∀ {fault : SyntaxFault}, action before = .error fault →
    fault.expected.concernsToken = true →
    ∃ body lexeme rest, lexeme.position = fault.position ∧
      Hinges action before body (lexeme :: rest) (fun _ => .error fault) ∧
      ∃ more value, phrase value (body.map Lexeme.token ++ more)

/-- An action does so wherever the source has an end. -/
def Reads (phrase : α → List Token → Prop) (action : Production α) : Prop :=
  ∀ ⦃before : Cursor⦄, Closed before.rest → ReadsAt phrase action before

section ReadsAt

variable {action other : Production α} {next : α × Cursor → Except SyntaxFault (β × Cursor)}
  {before place : Cursor} {phrase : α → List Token → Prop} {whole : β → List Token → Prop}

/-- Reading a part, which can be completed to a whole, and then on from its end. -/
theorem ReadsAt.bind (closed : Closed before.rest) (reads : ReadsAt phrase action before)
    (completed : ∀ value front, phrase value front → ∃ more result, whole result (front ++ more))
    (reads_next : ∀ value front (middle : Cursor), phrase value front → Closed middle.rest →
      middle.rest.length ≤ before.rest.length →
      ReadsAt (fun result back => whole result (front ++ back)) (fun cursor => next (value, cursor))
        middle) :
    ReadsAt whole (fun cursor => action cursor >>= next) before where
  ok := by
    intro result last run
    obtain ⟨⟨value, middle⟩, run_first, run_next⟩ := bind_eq_ok.mp run
    obtain ⟨front, hinges, is_phrase⟩ := reads.ok run_first
    have reads_middle :=
      reads_next value _ middle is_phrase (hinges.closed closed) hinges.length_le
    obtain ⟨back, hinges_next, is_whole⟩ := reads_middle.ok run_next
    exact ⟨front ++ back, hinges.bind hinges_next, by rwa [List.map_append]⟩
  error := by
    intro fault run concerns
    rcases bind_eq_error.mp run with failed | ⟨⟨value, middle⟩, run_first, failed⟩
    · obtain ⟨body, lexeme, rest, position_eq, hinges, more, value, is_phrase⟩ :=
        reads.error failed concerns
      obtain ⟨others, result, is_whole⟩ := completed value _ is_phrase
      rw [List.append_assoc] at is_whole
      exact ⟨body, lexeme, rest, position_eq, hinges.bind_error, _, result, is_whole⟩
    · obtain ⟨front, hinges, is_phrase⟩ := reads.ok run_first
      have reads_middle :=
        reads_next value _ middle is_phrase (hinges.closed closed) hinges.length_le
      obtain ⟨back, lexeme, rest, position_eq, hinges_next, more, result, is_whole⟩ :=
        reads_middle.error failed concerns
      rw [← List.append_assoc, ← List.map_append] at is_whole
      exact ⟨front ++ back, lexeme, rest, position_eq, hinges.bind hinges_next, more, result,
        is_whole⟩

theorem ReadsAt.mono {broader : α → List Token → Prop} (reads : ReadsAt phrase action before)
    (completed : ∀ value tokens, phrase value tokens → broader value tokens) :
    ReadsAt broader action before where
  ok := by
    intro value after run
    obtain ⟨body, hinges, is_phrase⟩ := reads.ok run
    exact ⟨body, hinges, completed _ _ is_phrase⟩
  error := by
    intro fault run concerns
    obtain ⟨body, lexeme, rest, position_eq, hinges, more, value, is_phrase⟩ :=
      reads.error run concerns
    exact ⟨body, lexeme, rest, position_eq, hinges, more, value, completed _ _ is_phrase⟩

theorem ReadsAt.transfer (reads : ReadsAt phrase other place)
    (same : action before = other place)
    (transfers : ∀ {body rest outcome}, Hinges other place body rest outcome →
      Hinges action before body rest outcome) : ReadsAt phrase action before where
  ok := by
    intro value after run
    rw [same] at run
    obtain ⟨body, hinges, is_phrase⟩ := reads.ok run
    exact ⟨body, transfers hinges, is_phrase⟩
  error := by
    intro fault run concerns
    rw [same] at run
    obtain ⟨body, lexeme, rest, position_eq, hinges, completes⟩ := reads.error run concerns
    exact ⟨body, lexeme, rest, position_eq, transfers hinges, completes⟩

theorem ReadsAt.congr (closed : Closed before.rest) (other : Production α)
    (same : ∀ tail, Closed tail → (before.on tail).lexeme = before.lexeme →
      action (before.on tail) = other (before.on tail))
    (reads : ReadsAt phrase other before) : ReadsAt phrase action before :=
  reads.transfer (same before.rest closed rfl) (.congr same)

/-- Reading on after a token that is not the end. -/
theorem ReadsAt.advance (closed : Closed before.rest) (unfinished : before.token.isFinish = false)
    (other : Production α)
    (same : ∀ tail, Closed tail → (before.on tail).lexeme = before.lexeme →
      action (before.on tail) = other (before.on tail).advance)
    (reads : ReadsAt (fun value tokens => phrase value (before.token :: tokens)) other
      before.advance) : ReadsAt phrase action before where
  ok := by
    intro value after run
    have run_later := (same before.rest closed rfl).symm.trans run
    obtain ⟨body, hinges, is_phrase⟩ := reads.ok run_later
    obtain ⟨lexeme, token_eq, hinges⟩ := hinges.advance unfinished
    exact ⟨lexeme :: body, hinges.congr same, by rwa [List.map_cons, token_eq]⟩
  error := by
    intro fault run concerns
    have run_later := (same before.rest closed rfl).symm.trans run
    obtain ⟨body, stop, rest, position_eq, hinges, more, value, is_phrase⟩ :=
      reads.error run_later concerns
    obtain ⟨lexeme, token_eq, hinges⟩ := hinges.advance unfinished
    refine ⟨lexeme :: body, stop, rest, position_eq, hinges.congr same, more, value, ?_⟩
    rwa [List.map_cons, token_eq]

/-- Failures that are no matter of a token say nothing about one. -/
theorem readsAt_refuse (failure : Cursor → SyntaxFault)
    (apart : (failure before).expected.concernsToken = false) :
    ReadsAt phrase (fun cursor => .error (failure cursor)) before where
  ok := nofun
  error := by
    intro fault run concerns
    cases run
    rw [apart] at concerns
    cases concerns

/-- Reading below one more level, if there is room for it. -/
theorem ReadsAt.enter (reads : ReadsAt phrase action before.opened) :
    ReadsAt phrase (fun cursor => cursor.enter >>= action) before := by
  by_cases room : before.depth < before.limit
  · have opens (lexemes : List Lexeme) :
        (before.on lexemes).enter >>= action = action (before.opened.on lexemes) := by
      have entered : (before.on lexemes).enter = .ok (before.opened.on lexemes) := if_pos room
      rw [entered]
      rfl
    refine reads.transfer (opens before.rest) fun hinges => ⟨hinges.split, hinges.unfinished, ?_⟩
    intro tail closed same
    exact (opens _).trans (hinges.settled tail closed same)
  · have refused : (before.enter >>= action) = .error before.tooDeep := by
      rw [enter_eq, if_neg room]
      rfl
    constructor
    · intro value after run
      cases refused.symm.trans run
    · intro fault run concerns
      cases refused.symm.trans run
      cases concerns

theorem readsAt_leave {value : α} (levels : Nat) (is_phrase : phrase value []) :
    ReadsAt phrase (fun cursor => .ok (value, cursor.leave levels)) before where
  ok := by
    intro value after run
    cases run
    exact ⟨[], ⟨rfl, nofun, fun _ _ _ => rfl⟩, is_phrase⟩
  error := nofun

theorem readsAt_fault {expected : Expected} {more : List Token} {value : α}
    (closed : Closed before.rest) (completes : phrase value more) :
    ReadsAt phrase (fun cursor => .error (cursor.fault expected)) before where
  ok := nofun
  error := by
    intro fault run concerns
    cases run
    obtain ⟨lexeme, rest, rest_eq⟩ := List.exists_cons_of_ne_nil closed.ne_nil
    refine ⟨[], lexeme, rest, ?_, ⟨rest_eq, nofun, ?_⟩, more, value, completes⟩
    · rw [Cursor.fault, Cursor.lexeme, rest_eq]
      rfl
    · intro tail _ same
      have same_lexeme : (before.on tail).lexeme = before.lexeme :=
        lexeme_on_eq (by rw [same, rest_eq])
      rw [List.nil_append, Cursor.fault, Cursor.fault, token, token, same_lexeme]
      rfl

/-- Making something of what is read, with levels closed at the end. -/
def wrapped (wrap : α → β) (levels : Nat) (action : Production α) : Production β := fun cursor => do
  let (value, last) ← action cursor
  return (wrap value, last.leave levels)

theorem ReadsAt.wrapped {wrap : α → β} {levels : Nat} (closed : Closed before.rest)
    (reads : ReadsAt phrase action before)
    (completed : ∀ value tokens, phrase value tokens → whole (wrap value) tokens) :
    ReadsAt whole (wrapped wrap levels action) before := by
  have is_whole (value : α) (front : List Token) (is_phrase : phrase value front) :
      whole (wrap value) (front ++ []) := by
    rw [List.append_nil]
    exact completed value front is_phrase
  refine reads.bind closed (fun value front is_phrase => ⟨[], _, is_whole _ _ is_phrase⟩) ?_
  intro value front middle is_phrase _ _
  dsimp only
  exact readsAt_leave levels (is_whole _ _ is_phrase)

end ReadsAt

end Grammar
end Assay
