import Mathlib.Logic.Relation
import Assay.Proofs.Expr.Spacing
import Assay.Proofs.Text

/-!
# Where lexemes stand

A source is scanned from place to place, past a blank or past a token each time. A scan only ever
stands between two characters of its source, and the text of each lexeme is the piece of the source
at its position. What starts no token is such a piece as well.
-/

namespace Assay.Lexer

open Outcome

/-! ## Obstacles -/

section

variable {afterDot : Bool} {first : Char} {rest : List Char} {obstacle : Obstacle}

theorem wholeNumber_obstacle {digits : List Char}
    (failed : wholeNumber digits = .error obstacle) : obstacle.2 = digits := by
  rw [wholeNumber] at failed
  split at failed <;> cases failed
  rfl

theorem numberToken_obstacle {digits fraction exponent : List Char}
    (failed : numberToken digits fraction exponent = .error obstacle) :
    obstacle.2 = digits ++ fraction ++ exponent := by
  rw [numberToken] at failed
  split at failed
  · rename_i plain
    rw [Bool.and_eq_true, List.isEmpty_iff, List.isEmpty_iff] at plain
    rw [plain.1, plain.2, List.append_nil, List.append_nil]
    exact wholeNumber_obstacle failed
  · split at failed <;> cases failed
    rfl

theorem number_obstacle (isDigit : Text.isDigit first = true)
    (failed : number afterDot (first :: rest) = .error obstacle) :
    ∃ text, obstacle.2 = first :: text ∧ text <+: rest := by
  cases afterDot with
  | true =>
      have digits_eq := wholeNumber_obstacle (map_eq_error.mp failed)
      rw [List.takeWhile_cons_of_pos isDigit] at digits_eq
      exact ⟨_, digits_eq, List.takeWhile_prefix _⟩
  | false =>
      rw [number_eq, List.takeWhile_cons_of_pos isDigit, List.dropWhile_cons_of_pos isDigit]
        at failed
      have text_eq := numberToken_obstacle (map_eq_error.mp failed)
      rw [List.cons_append, List.cons_append] at text_eq
      have fraction_whole := (fraction_spec (rest.dropWhile Text.isDigit)).2
      have exponent_whole := (exponent_spec (fraction (rest.dropWhile Text.isDigit)).rest).2
      refine ⟨_, text_eq, (exponent (fraction (rest.dropWhile Text.isDigit)).rest).rest, ?_⟩
      rw [List.append_assoc, List.append_assoc, exponent_whole, fraction_whole,
        List.takeWhile_append_dropWhile]

theorem sign_obstacle (failed : sign (first :: rest) = .error obstacle) :
    ∃ text, obstacle.2 = first :: text ∧ text <+: rest := by
  unfold sign at failed
  split at failed <;> cases failed
  all_goals
    rename_i split
    cases split
  · exact ⟨['&'], rfl, List.prefix_append _ _⟩
  · exact ⟨['|'], rfl, List.prefix_append _ _⟩
  · exact ⟨[], rfl, List.nil_prefix⟩
  · exact ⟨[], rfl, List.nil_prefix⟩

/-- The text of an obstacle is read from the front of the source. -/
theorem token_obstacle (failed : token afterDot first rest = .error obstacle) :
    ∃ text, obstacle.2 = first :: text ∧ text <+: rest := by
  rw [token] at failed
  split at failed
  case isTrue isDigit => exact number_obstacle isDigit failed
  case isFalse =>
  split at failed
  case isTrue =>
    split at failed <;> cases failed
    exact ⟨rest, rfl, List.prefix_rfl⟩
  case isFalse =>
  split at failed
  case isTrue => cases failed
  case isFalse => exact sign_obstacle failed

end

/-! ## Scanning -/

/-- How far a source has been scanned. -/
structure State where
  /-- The lexemes before the place. -/
  lexemes : List Lexeme
  /-- The byte at the place. -/
  position : Nat
  /-- Whether the last lexeme is a point. -/
  afterDot : Bool
  /-- The characters from the place on. -/
  rest : List Char

namespace State

/-- The front of a source. -/
def start (source : String) : State := ⟨[], 0, false, source.toList⟩

/-- One step of a scan. -/
inductive Step : State → State → Prop where
  /-- Past a blank. -/
  | blank {lexemes : List Lexeme} {position : Nat} {afterDot : Bool} {first : Char}
      {rest : List Char} (isBlank : Text.isBlank first = true) :
      Step ⟨lexemes, position, afterDot, first :: rest⟩
        ⟨lexemes, position + first.utf8Size, afterDot, rest⟩
  /-- Past a token, whose text is cut out of the source. -/
  | token {lexemes : List Lexeme} {position : Nat} {afterDot : Bool} {first : Char}
      {rest text : List Char} {reading : Reading Token} (visible : Text.isBlank first = false)
      (read : token afterDot first rest = .ok reading)
      (cut : text = (first :: rest).take ((first :: rest).length - reading.rest.length)) :
      Step ⟨lexemes, position, afterDot, first :: rest⟩
        ⟨lexemes ++ [⟨reading.value, position, text⟩], position + Text.width text,
          reading.value.isDot, reading.rest⟩

/-- A scan leads from one place to another. -/
def Reaches : State → State → Prop := Relation.ReflTransGen Step

/-- What comes of a scan that cannot go on. -/
inductive Stops : State → Except SyntaxFault (List Lexeme) → Prop where
  /-- At the end of the source. -/
  | finish {lexemes : List Lexeme} {position : Nat} {afterDot : Bool} :
      Stops ⟨lexemes, position, afterDot, []⟩ (.ok (lexemes ++ [⟨.finish, position, []⟩]))
  /-- At what starts no token. -/
  | obstacle {lexemes : List Lexeme} {position : Nat} {afterDot : Bool} {first : Char}
      {rest : List Char} {obstacle : Obstacle} (visible : Text.isBlank first = false)
      (failed : token afterDot first rest = .error obstacle) :
      Stops ⟨lexemes, position, afterDot, first :: rest⟩
        (.error (obstacleFault position obstacle))

theorem exists_stops_scan (lexemes : List Lexeme) (position : Nat) (afterDot : Bool)
    (chars : List Char) :
    ∃ state, Reaches ⟨lexemes, position, afterDot, chars⟩ state ∧
      state.Stops ((scan position afterDot chars).map (lexemes ++ ·)) := by
  -- The scan gives the lexemes from a place on only, so those before it are put in front.
  fun_induction scan position afterDot chars generalizing lexemes with
  | case1 => exact ⟨_, .refl, .finish⟩
  | case2 position afterDot first rest isBlank ih =>
      obtain ⟨state, reaches, stops⟩ := ih lexemes
      exact ⟨state, .head (.blank isBlank) reaches, stops⟩
  | case3 position afterDot first rest visible obstacle failed =>
      exact ⟨_, .refl, .obstacle (Bool.eq_false_iff.mpr visible) failed⟩
  | case4 position afterDot first rest visible =>
      rename_i reading read text ih
      obtain ⟨state, reaches, stops⟩ := ih (lexemes ++ [⟨reading.value, position, text⟩])
      refine ⟨state, .head (.token (Bool.eq_false_iff.mpr visible) read rfl) reaches, ?_⟩
      cases scanned : scan (position + Text.width text) reading.value.isDot reading.rest with
      | error fault => rwa [scanned] at stops
      | ok others =>
          rw [scanned] at stops
          simpa [Except.map] using stops

/-- Steps lead from the front of a source to where its scan stops. -/
theorem exists_stops_tokenize (source : String) :
    ∃ state, (start source).Reaches state ∧ state.Stops (tokenize source) := by
  obtain ⟨state, reaches, stops⟩ := exists_stops_scan [] 0 false source.toList
  have outcome_eq : (scan 0 false source.toList).map ([] ++ ·) = tokenize source := by
    rw [tokenize]
    cases scan 0 false source.toList <;> rfl
  exact ⟨state, reaches, outcome_eq ▸ stops⟩

/-- The place lies between two characters of the source, or at an end of it, and the text of each
lexeme before it stands in the source. -/
structure Sound (source : List Char) (state : State) : Prop where
  here : ∃ front, source = front ++ state.rest ∧ Text.width front = state.position
  placed : ∀ lexeme ∈ state.lexemes, Text.Placed source lexeme.position lexeme.text

theorem sound_start (source : String) : (start source).Sound source.toList where
  here := ⟨[], rfl, rfl⟩
  placed := nofun

variable {source : List Char} {state next : State}

theorem Step.sound (step : Step state next) (sound : state.Sound source) :
    next.Sound source := by
  obtain ⟨⟨front, whole, position_eq⟩, placed⟩ := sound
  cases step with
  | @blank _ _ _ first =>
      refine ⟨⟨front ++ [first], ?_, ?_⟩, placed⟩
      · rw [List.append_assoc]
        exact whole
      · rw [Text.width_append, position_eq]
        rfl
  | @token _ _ _ first rest text reading visible read cut =>
      -- What the token leaves is the end of the source, so its text is all that stands before.
      obtain ⟨piece, rfl, -⟩ := token_cuts read
      rw [take_text] at cut
      subst cut
      dsimp only at whole position_eq
      have here : Text.Placed source (Text.width front) (first :: piece) := .visible visible whole
      rw [position_eq] at here
      refine ⟨⟨front ++ first :: piece, ?_, ?_⟩, ?_⟩
      · rw [List.append_assoc]
        exact whole
      · rw [Text.width_append, position_eq]
      · exact List.forall_mem_append.mpr ⟨placed, List.forall_mem_singleton.mpr here⟩

theorem Reaches.sound (reaches : state.Reaches next) (sound : state.Sound source) :
    next.Sound source := by
  induction reaches with
  | refl => exact sound
  | tail _ step ih => exact step.sound ih

theorem Stops.placed {lexemes : List Lexeme} (stops : state.Stops (.ok lexemes))
    (sound : state.Sound source) :
    ∀ lexeme ∈ lexemes, Text.Placed source lexeme.position lexeme.text := by
  obtain ⟨⟨front, whole, position_eq⟩, placed⟩ := sound
  cases stops with
  | finish =>
      obtain rfl : source = front := by rw [whole, List.append_nil]
      have ended : Text.Placed source (Text.width source) [] := .finish
      rw [position_eq] at ended
      exact List.forall_mem_append.mpr ⟨placed, List.forall_mem_singleton.mpr ended⟩

theorem Stops.fault_placed {fault : SyntaxFault} (stops : state.Stops (.error fault))
    (sound : state.Sound source) : Text.Placed source fault.position fault.text := by
  obtain ⟨⟨front, whole, position_eq⟩, -⟩ := sound
  cases stops with
  | obstacle visible failed =>
      obtain ⟨text, text_eq, back, rfl⟩ := token_obstacle failed
      rw [obstacleFault, text_eq]
      dsimp only at whole position_eq ⊢
      rw [← position_eq]
      exact .visible visible whole

end State

end Assay.Lexer

namespace Assay

open Lexer

/-- The text of each lexeme of a source stands in it at the position of the lexeme. -/
theorem tokenize_placed {source : String} {lexemes : List Lexeme}
    (tokenized : tokenize source = .ok lexemes) :
    ∀ lexeme ∈ lexemes, Text.Placed source.toList lexeme.position lexeme.text := by
  obtain ⟨state, reaches, stops⟩ := State.exists_stops_tokenize source
  rw [tokenized] at stops
  exact stops.placed (reaches.sound (State.sound_start source))

theorem tokenize_fault_placed {source : String} {fault : SyntaxFault}
    (failed : tokenize source = .error fault) :
    Text.Placed source.toList fault.position fault.text := by
  obtain ⟨state, reaches, stops⟩ := State.exists_stops_tokenize source
  rw [failed] at stops
  exact stops.fault_placed (reaches.sound (State.sound_start source))

end Assay
