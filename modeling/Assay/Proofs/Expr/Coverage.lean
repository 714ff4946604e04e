import Assay.Proofs.Expr.Placement

/-!
# Nothing is lost

A source is the texts of its lexemes with blanks around them. The texts stand one after the other
and do not overlap, and a character outside of all of them is a blank.
-/

namespace Assay

/-- The byte behind a lexeme. -/
def Lexeme.stop (lexeme : Lexeme) : Nat := lexeme.position + Text.width lexeme.text

/-- A byte is one of the bytes of a lexeme. -/
def Lexeme.Spans (lexeme : Lexeme) (place : Nat) : Prop :=
  lexeme.position ≤ place ∧ place < lexeme.stop

namespace Lexer

/-- The lexemes cover the characters from a position on, except for blanks. -/
structure Covers (position : Nat) (chars : List Char) (lexemes : List Lexeme) : Prop where
  /-- None of them starts further to the front. -/
  behind : ∀ lexeme ∈ lexemes, position ≤ lexeme.position
  /-- Each of them ends before the next one starts. -/
  apart : lexemes.Pairwise fun first second => first.stop ≤ second.position
  /-- What none of them spans is a blank. -/
  gaps : ∀ front char back, chars = front ++ char :: back →
    (∀ lexeme ∈ lexemes, ¬lexeme.Spans (position + Text.width front)) → Text.isBlank char = true
  /-- The last one is the end of the source. -/
  last : lexemes.getLast? = some ⟨.finish, position + Text.width chars, []⟩

variable {position : Nat} {afterDot : Bool} {gap text rest chars : List Char} {first : Char}
  {value : Token} {lexemes : List Lexeme}

theorem covers_finish (blank : Blank gap) :
    Covers position gap [⟨.finish, position + Text.width gap, []⟩] where
  behind := List.forall_mem_singleton.mpr (Nat.le_add_right _ _)
  apart := List.pairwise_singleton _ _
  gaps := by
    rintro front char back rfl -
    exact blank char (List.mem_append_right front List.mem_cons_self)
  last := rfl

/-- A character behind others, or one of them. -/
theorem append_eq_append_cons {back : List Char} {front others : List Char} {char : Char}
    (whole : front ++ back = others ++ char :: rest) :
    char ∈ front ∧ Text.width others < Text.width front ∨
      ∃ middle, others = front ++ middle ∧ back = middle ++ char :: rest := by
  rcases List.append_eq_append_iff.mp whole with ⟨middle, rfl, rfl⟩ | ⟨middle, rfl, rest_eq⟩
  · exact .inr ⟨middle, rfl, rfl⟩
  · cases middle with
    | nil => exact .inr ⟨[], by simp, rest_eq.symm⟩
    | cons head middle =>
        obtain ⟨rfl, -⟩ := List.cons.inj rest_eq
        refine .inl ⟨List.mem_append_right others List.mem_cons_self, ?_⟩
        rw [Text.width_append, Text.width_cons]
        have wide := Char.utf8Size_pos char
        omega

/-- Blanks and a token stand in front of what other lexemes cover. -/
theorem Covers.token (blank : Blank gap)
    (others : Covers (position + Text.width gap + Text.width text) rest lexemes) :
    Covers position (gap ++ (text ++ rest)) (⟨value, position + Text.width gap, text⟩ :: lexemes)
    where
  behind := by
    refine List.forall_mem_cons.mpr ⟨Nat.le_add_right _ _, fun lexeme mem => ?_⟩
    have := others.behind lexeme mem
    omega
  apart := List.pairwise_cons.mpr ⟨others.behind, others.apart⟩
  gaps := by
    intro front char back whole uncovered
    obtain ⟨outside, uncovered⟩ := List.forall_mem_cons.mp uncovered
    -- The character is in the gap, or in the text, which the token spans, or further on.
    rcases append_eq_append_cons whole with ⟨inside, -⟩ | ⟨middle, rfl, behind_gap⟩
    · exact blank char inside
    rcases append_eq_append_cons behind_gap with ⟨-, within⟩ | ⟨further, rfl, behind_text⟩
    · refine absurd ⟨?_, ?_⟩ outside
      · rw [Text.width_append]
        exact Nat.add_le_add_left (Nat.le_add_right _ _) position
      · rw [Lexeme.stop, Text.width_append, ← Nat.add_assoc]
        exact Nat.add_lt_add_left within _
    · refine others.gaps further char back behind_text fun lexeme mem => ?_
      rw [Nat.add_assoc, Nat.add_assoc, ← Text.width_append, ← Text.width_append]
      exact uncovered lexeme mem
  last := by
    rw [List.getLast?_cons, others.last, Text.width_append, Text.width_append, ← Nat.add_assoc,
      ← Nat.add_assoc]
    rfl

theorem Scanned.covers (scanned : Scanned position afterDot chars lexemes) :
    Covers position chars lexemes := by
  induction scanned with
  | finish blank => exact covers_finish blank
  | @token _ _ gap text rest first _ _ blank _ _ _ ih =>
      rw [← List.cons_append]
      exact .token blank ih

end Lexer

open Lexer

/-- The lexemes of a source stand one behind the other, each of them is the piece of the source at
its position, and only the end, which comes last, has no text. Nothing but blanks stands in front
of, between and behind them. -/
theorem tokenize_covers {source : String} {lexemes : List Lexeme}
    (tokenized : tokenize source = .ok lexemes) :
    (lexemes.Pairwise fun first second => first.position < second.position) ∧
      (∀ lexeme ∈ lexemes, ∃ front back, source.toList = front ++ (lexeme.text ++ back) ∧
        Text.width front = lexeme.position) ∧
      (∀ lexeme ∈ lexemes, lexeme.token ≠ .finish → lexeme.text ≠ []) ∧
      (lexemes.Pairwise fun first second => first.stop ≤ second.position) ∧
      (∀ front char back, source.toList = front ++ char :: back →
        (∀ lexeme ∈ lexemes, ¬lexeme.Spans (Text.width front)) → Text.isBlank char = true) ∧
      ∃ body, lexemes = body ++ [⟨.finish, source.utf8ByteSize, []⟩] ∧
        ∀ lexeme ∈ body, lexeme.token ≠ .finish := by
  have scanned : Scanned 0 false source.toList lexemes := scanned_of_scan tokenized
  have covers := scanned.covers
  refine ⟨tokenize_positions tokenized,
    fun lexeme mem => (tokenize_placed tokenized lexeme mem).exists_slice, ?_, covers.apart, ?_, ?_⟩
  · intro lexeme mem unfinished
    rcases scanned.reads lexeme mem with ended | ⟨_, first, text, text_eq, -⟩
    · exact absurd ended unfinished
    · rw [text_eq]
      exact List.cons_ne_nil first text
  · intro front char back whole uncovered
    refine covers.gaps front char back whole ?_
    rwa [Nat.zero_add]
  · obtain ⟨body, last, rfl, -, unfinished⟩ := tokenize_ends tokenized
    have last_eq := covers.last
    rw [List.getLast?_concat, Nat.zero_add, Text.width_toList] at last_eq
    refine ⟨body, by rw [Option.some.inj last_eq], fun lexeme mem ended => ?_⟩
    have open_ended := unfinished lexeme mem
    rw [ended] at open_ended
    cases open_ended

/-- A comparison with an escaped quote, behind a blank of two bytes. -/
def quotingSource : String := "\u00a0ab <= \"é\\\"\" "

/-- Its lexemes. -/
def quoting : List Lexeme :=
  [⟨.name "ab", 2, ['a', 'b']⟩, ⟨.atMost, 5, ['<', '=']⟩,
    ⟨.text "é\"", 8, ['"', 'é', '\\', '"', '"']⟩, ⟨.finish, 15, []⟩]

theorem tokenize_covers_quoting :
    tokenize quotingSource = .ok quoting ∧
      (quoting.Pairwise fun first second => first.position < second.position) ∧
      (∀ lexeme ∈ quoting, ∃ front back, quotingSource.toList = front ++ (lexeme.text ++ back) ∧
        Text.width front = lexeme.position) ∧
      (∀ lexeme ∈ quoting, lexeme.token ≠ .finish → lexeme.text ≠ []) ∧
      (quoting.Pairwise fun first second => first.stop ≤ second.position) ∧
      (∀ front char back, quotingSource.toList = front ++ char :: back →
        (∀ lexeme ∈ quoting, ¬lexeme.Spans (Text.width front)) → Text.isBlank char = true) ∧
      ∃ body, quoting = body ++ [⟨.finish, quotingSource.utf8ByteSize, []⟩] ∧
        ∀ lexeme ∈ body, lexeme.token ≠ .finish := by
  have tokenized : tokenize quotingSource = .ok quoting := by with_unfolding_all rfl
  exact ⟨tokenized, tokenize_covers tokenized⟩

end Assay
