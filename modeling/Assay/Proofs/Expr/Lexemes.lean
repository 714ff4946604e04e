import Assay.Expr.Lexer
import Assay.Proofs.Outcome

/-!
# The lexemes of a source

No token that is read from characters is the end of the source, so the end stands last among the
lexemes of a source and nowhere else. Each of these tokens takes some bytes, so no two lexemes have
the same position.
-/

namespace Assay.Lexer

open Outcome

theorem wholeNumber_unfinished {digits : List Char} {token : Token}
    (read : wholeNumber digits = .ok token) : token.isFinish = false := by
  rw [wholeNumber] at read
  split at read
  · cases read
    rfl
  · cases read

theorem number_unfinished {afterDot : Bool} {chars : List Char} {reading : Reading Token}
    (read : number afterDot chars = .ok reading) : reading.value.isFinish = false := by
  have whole {digits rest : List Char}
      (ok : (wholeNumber digits).map (fun token => Reading.mk token rest) = .ok reading) :
      reading.value.isFinish = false := by
    obtain ⟨token, made, rfl⟩ := map_eq_ok.mp ok
    exact wholeNumber_unfinished made
  simp only [number] at read
  split at read
  · exact whole read
  · split at read
    · exact whole read
    · split at read
      · cases read
        rfl
      · cases read

theorem keyword_unfinished (word : String) : (keyword word).isFinish = false := by
  rw [keyword]
  repeat' split
  all_goals rfl

theorem sign_unfinished {first : Char} {rest : List Char} {reading : Reading Token}
    (read : sign (first :: rest) = .ok reading) : reading.value.isFinish = false := by
  unfold sign at read
  split at read <;> cases read <;> first | rfl | contradiction

theorem token_unfinished {afterDot : Bool} {first : Char} {rest : List Char}
    {reading : Reading Token} (read : token afterDot first rest = .ok reading) :
    reading.value.isFinish = false := by
  rw [token] at read
  split at read
  · exact number_unfinished read
  · split at read
    · split at read <;> cases read
      rfl
    · split at read
      · cases read
        exact keyword_unfinished _
      · exact sign_unfinished read

/-! ## The four ways to read a token -/

/-- The ways to read a token. -/
inductive Kind where
  /-- From digits. -/
  | number
  /-- From a text in quotes. -/
  | text
  /-- From a word. -/
  | word
  /-- From a sign. -/
  | sign
  deriving DecidableEq

/-- The way in which a token is read. -/
def kind : Token → Kind
  | .int _ | .float _ => .number
  | .text _ => .text
  | .name _ | .truth _ | .and | .or | .not => .word
  | _ => .sign

/-- What has been read from the front of a source in one of the four ways. -/
inductive ReadBy (afterDot : Bool) (first : Char) (rest : List Char) :
    Kind → Reading Token → Prop
  /-- A number starts with a digit. -/
  | number {reading : Reading Token} (isDigit : Text.isDigit first = true)
      (read : number afterDot (first :: rest) = .ok reading) :
      ReadBy afterDot first rest .number reading
  /-- A text starts with a quote. -/
  | text {reading : Reading (List Char)} (isQuote : first = '"')
      (read : quoted rest = some reading) :
      ReadBy afterDot first rest .text ⟨.text (String.ofList reading.value), reading.rest⟩
  /-- A word starts with a letter or an underscore. -/
  | word (isStart : Text.isWordStart first = true) :
      ReadBy afterDot first rest .word
        ⟨keyword (String.ofList ((first :: rest).takeWhile Text.isWordChar)),
          (first :: rest).dropWhile Text.isWordChar⟩
  /-- A sign starts with anything else. -/
  | sign {reading : Reading Token} (read : sign (first :: rest) = .ok reading) :
      ReadBy afterDot first rest .sign reading

theorem number_kind {afterDot : Bool} {chars : List Char} {reading : Reading Token}
    (read : number afterDot chars = .ok reading) : kind reading.value = .number := by
  have whole {digits rest : List Char}
      (ok : (wholeNumber digits).map (fun token => Reading.mk token rest) = .ok reading) :
      kind reading.value = .number := by
    obtain ⟨token, made, rfl⟩ := map_eq_ok.mp ok
    rw [wholeNumber] at made
    split at made <;> cases made
    rfl
  simp only [number] at read
  split at read
  · exact whole read
  · split at read
    · exact whole read
    · split at read <;> cases read
      rfl

theorem keyword_kind (word : String) : kind (keyword word) = .word := by
  rw [keyword]
  repeat' split
  all_goals rfl

theorem sign_kind {first : Char} {rest : List Char} {reading : Reading Token}
    (read : sign (first :: rest) = .ok reading) : kind reading.value = .sign := by
  unfold sign at read
  split at read <;> cases read <;> rfl

/-- The kind of a token tells how it was read. -/
theorem token_readBy {afterDot : Bool} {first : Char} {rest : List Char}
    {reading : Reading Token} (read : token afterDot first rest = .ok reading) :
    ReadBy afterDot first rest (kind reading.value) reading := by
  rw [token] at read
  split at read
  · rename_i isDigit
    rw [number_kind read]
    exact .number isDigit read
  · split at read
    · rename_i isQuote
      split at read <;> cases read
      rename_i quotation
      exact .text isQuote quotation
    · split at read
      · rename_i isStart
        cases read
        rw [keyword_kind]
        exact .word isStart
      · rw [sign_kind read]
        exact .sign read

/-! ## Scanned lexemes -/

theorem scan_ends {position : Nat} {afterDot : Bool} {chars : List Char} {lexemes : List Lexeme}
    (scanned : scan position afterDot chars = .ok lexemes) :
    ∃ body last, lexemes = body ++ [last] ∧ last.token = .finish ∧
      ∀ lexeme ∈ body, lexeme.token.isFinish = false := by
  fun_induction scan position afterDot chars generalizing lexemes with
  | case1 position =>
      cases scanned
      exact ⟨[], _, rfl, rfl, nofun⟩
  | case2 position afterDot first rest blank ih => exact ih scanned
  | case3 => cases scanned
  | case4 =>
      rename_i reading read text ih
      obtain ⟨others, scanned_rest, rfl⟩ := map_eq_ok.mp scanned
      obtain ⟨body, last, rfl, ended, unfinished⟩ := ih scanned_rest
      refine ⟨_ :: body, last, rfl, ended, List.forall_mem_cons.mpr ⟨?_, unfinished⟩⟩
      exact token_unfinished read

/-- Each lexeme stands further on than those before it. -/
theorem scan_positions {position : Nat} {afterDot : Bool} {chars : List Char}
    {lexemes : List Lexeme} (scanned : scan position afterDot chars = .ok lexemes) :
    (∀ lexeme ∈ lexemes, position ≤ lexeme.position) ∧
      lexemes.Pairwise fun first second => first.position < second.position := by
  fun_induction scan position afterDot chars generalizing lexemes with
  | case1 position =>
      cases scanned
      exact ⟨List.forall_mem_singleton.mpr (Nat.le_refl _), List.pairwise_singleton _ _⟩
  | case2 position afterDot first rest blank ih =>
      obtain ⟨later, ordered⟩ := ih scanned
      exact ⟨fun lexeme mem => Nat.le_trans (Nat.le_add_right _ _) (later lexeme mem), ordered⟩
  | case3 => cases scanned
  | case4 position afterDot first rest =>
      rename_i reading read text ih
      obtain ⟨others, scanned_rest, rfl⟩ := map_eq_ok.mp scanned
      obtain ⟨later, ordered⟩ := ih scanned_rest
      have shorter := token_length read
      obtain ⟨length, length_eq⟩ := Nat.exists_eq_succ_of_ne_zero
        (Nat.ne_of_gt (Nat.sub_pos_of_lt shorter))
      have wide : 0 < Text.width text := by
        simp only [text]
        rw [length_eq, List.take_succ_cons, Text.width_cons]
        exact Nat.add_pos_left (Char.utf8Size_pos first) _
      have behind : ∀ lexeme ∈ others, position < lexeme.position := fun lexeme mem =>
        Nat.lt_of_lt_of_le (Nat.lt_add_of_pos_right wide) (later lexeme mem)
      refine ⟨List.forall_mem_cons.mpr ⟨Nat.le_refl _, fun lexeme mem => ?_⟩,
        List.pairwise_cons.mpr ⟨behind, ordered⟩⟩
      exact Nat.le_of_lt (behind lexeme mem)

end Assay.Lexer

namespace Assay

/-- The lexemes of a source are the end of the source after others that are not. -/
theorem tokenize_ends {source : String} {lexemes : List Lexeme}
    (tokenized : tokenize source = .ok lexemes) :
    ∃ body last, lexemes = body ++ [last] ∧ last.token = .finish ∧
      ∀ lexeme ∈ body, lexeme.token.isFinish = false :=
  Lexer.scan_ends tokenized

theorem tokenize_positions {source : String} {lexemes : List Lexeme}
    (tokenized : tokenize source = .ok lexemes) :
    lexemes.Pairwise fun first second => first.position < second.position :=
  (Lexer.scan_positions tokenized).2

end Assay
