import Assay.Proofs.Expr.Locality
import Assay.Proofs.Grammar.Exactness

/-!
# Free names

A name in a text is the key of a reference unless it is a field, with a point before it, or a
function, with a parenthesis after it. The references of an expression are these free names of its
text and no others.
-/

namespace Assay
namespace Grammar

open Outcome

/-- A name stands among some tokens with no point right before it and no opening parenthesis right
after it. -/
def Free (tokens : List Token) (name : String) : Prop :=
  ∃ front back, tokens = front ++ .name name :: back ∧
    front.getLast? ≠ some .dot ∧ back.head? ≠ some .openParen

/-- Where two runs of tokens meet neither side has a say in which names of the other one are
free. -/
structure Apart (front back : List Token) : Prop where
  closed : front.getLast? ≠ some .dot
  uncalled : ∀ name, front.getLast? = some (.name name) → back.head? ≠ some .openParen

variable {front back tokens : List Token} {token : Token} {name : String}

theorem free_append (apart : Apart front back) :
    Free (front ++ back) name ↔ Free front name ∨ Free back name := by
  constructor
  · rintro ⟨before, after, split, no_point, no_call⟩
    rcases List.append_eq_append_iff.mp split with ⟨middle, rfl, rfl⟩ | ⟨middle, rfl, after_eq⟩
    · refine .inr ⟨middle, after, rfl, fun point => no_point ?_, no_call⟩
      rw [List.getLast?_append, point]
      rfl
    · cases middle with
      | nil => exact .inr ⟨[], after, after_eq.symm, nofun, no_call⟩
      | cons first middle =>
          obtain ⟨rfl, rfl⟩ := List.cons.inj after_eq
          refine .inl ⟨before, middle, rfl, no_point, fun call => no_call ?_⟩
          exact (List.head?_append (l := middle)).trans (by rw [call]; rfl)
  · rintro (⟨before, after, rfl, no_point, no_call⟩ | ⟨before, after, rfl, no_point, no_call⟩)
    · refine ⟨before, after ++ back, by simp, no_point, ?_⟩
      cases after with
      | nil => exact apart.uncalled name (by simp)
      | cons next after => exact no_call
    · refine ⟨front ++ before, after, by simp, ?_, no_call⟩
      cases before.eq_nil_or_concat with
      | inl empty => simpa [empty] using apart.closed
      | inr split =>
          obtain ⟨others, last, rfl⟩ := split
          simpa using no_point

theorem Free.mem (free : Free tokens name) : .name name ∈ tokens := by
  obtain ⟨before, after, rfl, _, _⟩ := free
  exact List.mem_append_right before List.mem_cons_self

/-- Some tokens, the last of which is no point, with the names that are free among them. -/
structure Mentions (tokens : List Token) (names : List String) : Prop where
  closed : tokens.getLast? ≠ some .dot
  mem_iff : ∀ name, name ∈ names ↔ Free tokens name

/-- Whether a token is neither a name nor a point. -/
def isNeutral : Token → Bool
  | .name _ | .dot => false
  | _ => true

section Mentions

variable {names others : List String}

theorem Mentions.append (first : Mentions front names) (second : Mentions back others)
    (apart : Apart front back) : Mentions (front ++ back) (names ++ others) where
  closed := by
    rw [List.getLast?_append]
    cases last : back.getLast? with
    | none => exact first.closed
    | some token =>
        intro point
        exact second.closed (last.trans point)
  mem_iff name := by
    rw [List.mem_append, first.mem_iff, second.mem_iff, free_append apart]

/-- Tokens go on with anything but an opening parenthesis. -/
theorem Mentions.apart (mentions : Mentions front names)
    (uncalled : back.head? ≠ some .openParen) : Apart front back :=
  ⟨mentions.closed, fun _ _ => uncalled⟩

theorem apart_of_isNeutral (neutral : isNeutral token = true) : Apart [token] back where
  closed := by
    rintro ⟨⟩
    cases neutral
  uncalled := by
    rintro name ⟨⟩
    cases neutral

theorem mentions_nil : Mentions [] [] where
  closed := nofun
  mem_iff _ := iff_of_false nofun fun free => nomatch free.mem

theorem mentions_of_isNeutral (neutral : isNeutral token = true) : Mentions [token] [] where
  closed :=
    have at_end : Apart [token] [] := apart_of_isNeutral neutral
    at_end.closed
  mem_iff name := by
    refine iff_of_false nofun fun free => ?_
    obtain rfl := List.mem_singleton.mp free.mem
    cases neutral

theorem Mentions.cons (neutral : isNeutral token = true) (mentions : Mentions tokens names) :
    Mentions (token :: tokens) names :=
  (mentions_of_isNeutral neutral).append mentions (apart_of_isNeutral neutral)

/-- A token after others, neither of which makes a call. -/
theorem Mentions.concat (mentions : Mentions tokens names) (neutral : isNeutral token = true)
    (uncalled : token ≠ .openParen) : Mentions (tokens ++ [token]) names := by
  have mentioned := mentions.append (mentions_of_isNeutral neutral)
    (mentions.apart fun call => uncalled (Option.some.inj call))
  rwa [List.append_nil] at mentioned

/-- Tokens with an operator between them. -/
theorem Mentions.joined (first : Mentions front names) (second : Mentions back others)
    (neutral : isNeutral token = true) (uncalled : token ≠ .openParen) :
    Mentions (front ++ token :: back) (names ++ others) :=
  first.append (second.cons neutral) (first.apart fun call => uncalled (Option.some.inj call))

theorem mentions_name (name : String) : Mentions [.name name] [name] where
  closed := nofun
  mem_iff other := by
    constructor
    · intro mem
      obtain rfl := List.mem_singleton.mp mem
      exact ⟨[], [], rfl, nofun, nofun⟩
    · intro free
      simpa using free.mem

/-- The name of a function is not free. -/
theorem mentions_function (name : String) : Mentions [.name name, .openParen] [] where
  closed := nofun
  mem_iff other := by
    refine iff_of_false nofun ?_
    rintro ⟨before, after, split, _, no_call⟩
    cases before with
    | nil =>
        obtain ⟨-, rfl⟩ := List.cons.inj split
        exact no_call rfl
    | cons first before =>
        obtain ⟨-, split⟩ := List.cons.inj split
        have mem : .name other ∈ [Token.openParen] :=
          split ▸ List.mem_append_right before List.mem_cons_self
        cases List.mem_singleton.mp mem

/-- The name of a field is not free. -/
theorem Names.mentions {segment : Segment} (names : Names token segment) :
    Mentions [.dot, token] [] where
  closed := by cases names <;> nofun
  mem_iff other := by
    refine iff_of_false nofun ?_
    rintro ⟨before, after, split, no_point, _⟩
    cases before with
    | nil => cases split
    | cons first before =>
        obtain ⟨rfl, rest_eq⟩ := List.cons.inj split
        rcases List.singleton_eq_append_iff.mp rest_eq with ⟨rfl, _⟩ | ⟨_, nothing⟩
        · exact no_point rfl
        · cases nothing

theorem Segments.mentions {segments : List Segment} (derives : Segments tokens segments) :
    Mentions tokens [] ∧ tokens.head? ≠ some .openParen := by
  induction derives with
  | nil => exact ⟨mentions_nil, nofun⟩
  | cons names _ ih =>
      obtain ⟨mentioned, uncalled⟩ := ih
      exact ⟨names.mentions.append mentioned (names.mentions.apart uncalled), nofun⟩

end Mentions

/-! ## The free names of a phrase -/

variable {accepts : Builtin → Nat → Bool}

theorem Link.Joins.isNeutral {link : Link} {join : Expr → Expr → Expr}
    (joins : link.Joins token join) : isNeutral token = true := by
  cases joins <;> rfl

theorem Link.Joins.ne_openParen {link : Link} {join : Expr → Expr → Expr}
    (joins : link.Joins token join) : token ≠ .openParen := by
  cases joins <;> nofun

theorem Link.Joins.keys {link : Link} {join : Expr → Expr → Expr}
    (joins : link.Joins token join) (left right : Expr) :
    (join left right).keys = left.keys ++ right.keys := by
  cases joins <;> rfl

theorem isNeutral_sign (op : CompareOp) : isNeutral (sign op) = true := by
  cases op <;> rfl

theorem sign_ne_openParen (op : CompareOp) : sign op ≠ .openParen := by
  cases op <;> nofun

mutual

/-- The free names of a phrase are the keys of its tree. -/
theorem Derives.mentions {category : Category} {tokens : List Token} {tree : Expr}
    {demand : Nat} : Derives accepts category tokens tree demand → Mentions tokens tree.keys
  | .chain operand continues => continues.mentions operand.mentions
  | .not operand | .minus operand => operand.mentions.cons rfl
  | .plain operand | .single operand | .unsigned operand | .base operand => operand.mentions
  | .compare first second =>
      first.mentions.joined second.mentions (isNeutral_sign _) (sign_ne_openParen _)
  | .power first second => first.mentions.joined second.mentions rfl nofun
  | .literal literal => mentions_of_isNeutral (by cases literal <;> rfl)
  | .reference segments =>
      (mentions_name _).append segments.mentions.1 ((mentions_name _).apart segments.mentions.2)
  | .call _ items _ =>
      (mentions_function _).append (items.mentions.concat rfl nofun) ⟨nofun, nofun⟩
  | .list items => .cons rfl (items.mentions.concat (by rfl) (by nofun))
  | .parentheses inside => .cons rfl (inside.mentions.concat (by rfl) (by nofun))

/-- Reading on in a chain adds the names of its further operands. -/
theorem Continues.mentions {link : Link} {count demand : Nat} {left tree : Expr}
    {front tokens : List Token} : Continues accepts link count left tokens tree demand →
    Mentions front left.keys → Mentions (front ++ tokens) tree.keys
  | .done, before => by rwa [List.append_nil]
  | .more joins operand continues, before => by
      have joined := before.joined operand.mentions joins.isNeutral joins.ne_openParen
      rw [← joins.keys] at joined
      have mentioned := continues.mentions joined
      rwa [List.append_assoc] at mentioned

theorem Lists.mentions {tokens : List Token} {trees : List Expr} {demand : Nat} :
    Lists accepts tokens trees demand → Mentions tokens (Expr.keysOfAll trees)
  | .last item => by
      rw [Expr.keysOfAll, Expr.keysOfAll, List.append_nil]
      exact item.mentions
  | .more item items => item.mentions.joined items.mentions rfl nofun

theorem Encloses.mentions {tokens : List Token} {trees : List Expr} {demand : Nat} :
    Encloses accepts tokens trees demand → Mentions tokens (Expr.keysOfAll trees)
  | .none => mentions_nil
  | .some items => items.mentions

end

/-- The references of an expression are exactly the free names of its text. -/
theorem mem_references_iff_free {source : String} {expression : Expression}
    (read : Expression.read source = .ok expression) :
    ∃ lexemes, tokenize source = .ok lexemes ∧
      ∀ name, name ∈ expression.references ↔ Free (lexemes.map Lexeme.token) name := by
  rw [Expression.read] at read
  split at read
  · rename_i tree read_tree
    cases read
    obtain ⟨lexemes, tokenized, run⟩ := bind_eq_ok.mp read_tree
    obtain ⟨tokens, tokens_eq, spells⟩ := exists_spells tokenized
    obtain ⟨demand, _, derives⟩ := derives_ofLexemes spells run
    refine ⟨lexemes, tokenized, fun name => ?_⟩
    rw [Expression.references, Expr.mem_references_iff, tokens_eq]
    have mentioned : Mentions (tokens ++ [.finish]) tree.keys :=
      derives.mentions.concat rfl nofun
    exact mentioned.mem_iff name
  · cases read

/-- Whether the average speed of some records exceeds a key with the name of a function, and how
many they are. -/
def speedCheck : Expression where
  source := "avg(a.*.speed) > len and len(a) == x"
  tree := .logical .and
    (.compare .greater (.call .avg [.reference ⟨"a", [.wildcard, .field "speed"]⟩])
      (.reference ⟨"len", []⟩))
    (.compare .equal (.call .len [.reference ⟨"a", []⟩]) (.reference ⟨"x", []⟩))

/-- The first `len` is free, the second one is not. -/
theorem mem_references_iff_free_len :
    Expression.read speedCheck.source = .ok speedCheck ∧
      speedCheck.references = ["a", "len", "x"] ∧
      ∃ lexemes, tokenize speedCheck.source = .ok lexemes ∧
        ∀ name, name ∈ speedCheck.references ↔ Free (lexemes.map Lexeme.token) name := by
  have read : Expression.read speedCheck.source = .ok speedCheck := by with_unfolding_all rfl
  exact ⟨read, by decide +kernel, mem_references_iff_free read⟩

end Grammar
end Assay
