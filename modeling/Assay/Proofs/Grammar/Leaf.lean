import Assay.Proofs.Expr.Settled
import Assay.Proofs.Grammar.Exactness

/-!
# Leaves and tokens

The literals and references of a tree are taken from the tokens of its text: a literal is a token
of its own, and the key and the segments of a reference are tokens each. What relates such tokens to
their leaves, and carries over to phrases next to each other, relates all tokens of a text to all
leaves of its tree. So each leaf has its tokens in the text, and the doubles among the literals are
the ones among the tokens, in order.
-/

namespace Assay
namespace Grammar

open Outcome

/-- A relation between tokens and leaves that carries over to phrases next to each other. Tokens
that are no literals have no leaves of their own. -/
structure Joinable (relates : List Token → List Expr → Prop) : Prop where
  nil : relates [] []
  append {front back : List Token} {lefts rights : List Expr} (first : relates front lefts)
    (second : relates back rights) : relates (front ++ back) (lefts ++ rights)
  plain {token : Token} (leafless : ∀ value, ¬Literal token value) : relates [token] []
  literal {token : Token} {value : Value} (literal : Literal token value) :
    relates [token] [.literal value]
  reference {name : String} {tokens : List Token} {path : List Segment}
    (segments : Segments tokens path) : relates (.name name :: tokens) [.reference ⟨name, path⟩]

theorem sign_leafless (op : CompareOp) (value : Value) : ¬Literal (sign op) value := by
  cases op <;> nofun

section

variable {relates : List Token → List Expr → Prop} (joinable : Joinable relates)
  {tokens front back : List Token} {lefts rights : List Expr} {token : Token}

include joinable

theorem Joinable.cons (leafless : ∀ value, ¬Literal token value) (whole : relates tokens lefts) :
    relates (token :: tokens) lefts :=
  joinable.append (joinable.plain leafless) whole

/-- Two phrases with a token between them. -/
theorem Joinable.joined (leafless : ∀ value, ¬Literal token value) (first : relates front lefts)
    (second : relates back rights) : relates (front ++ token :: back) (lefts ++ rights) :=
  joinable.append first (joinable.cons leafless second)

/-- A phrase between two tokens. -/
theorem Joinable.enclosed {opening closing : Token}
    (opening_leafless : ∀ value, ¬Literal opening value)
    (closing_leafless : ∀ value, ¬Literal closing value) (inside : relates tokens lefts) :
    relates (opening :: (tokens ++ [closing])) lefts := by
  have closed := joinable.append inside (joinable.plain closing_leafless)
  rw [List.append_nil] at closed
  exact joinable.cons opening_leafless closed

/-- Two operands with their operator between them. -/
theorem Link.Joins.related {link : Link} {join : Expr → Expr → Expr}
    (joins : link.Joins token join) {left right : Expr} (first : relates front left.leaves)
    (second : relates back right.leaves) :
    relates (front ++ token :: back) (join left right).leaves := by
  have leaves_eq : (join left right).leaves = left.leaves ++ right.leaves := by
    cases joins <;> rfl
  rw [leaves_eq]
  exact joinable.joined (by cases joins <;> nofun) first second

variable {accepts : Builtin → Nat → Bool}

mutual

/-- The tokens of a phrase are related to its leaves. -/
theorem Derives.related {category : Category} {tokens : List Token} {tree : Expr}
    {demand : Nat} : Derives accepts category tokens tree demand → relates tokens tree.leaves
  | .chain operand continues => continues.related operand.related
  | .not operand | .minus operand => joinable.cons nofun operand.related
  | .plain operand | .single operand | .unsigned operand | .base operand =>
      operand.related
  | .compare first second => joinable.joined (sign_leafless _) first.related second.related
  | .power first second => joinable.joined nofun first.related second.related
  | .literal literal => joinable.literal literal
  | .reference segments => joinable.reference segments
  | .call _ items _ => joinable.cons nofun (joinable.enclosed nofun nofun items.related)
  | .list items => joinable.enclosed nofun nofun items.related
  | .parentheses inside => joinable.enclosed nofun nofun inside.related

/-- Reading on in a chain adds its further operands. -/
theorem Continues.related {link : Link} {count demand : Nat} {left tree : Expr}
    {front tokens : List Token} : Continues accepts link count left tokens tree demand →
    relates front left.leaves → relates (front ++ tokens) tree.leaves
  | .done, before => by rwa [List.append_nil]
  | .more joins operand continues, before => by
      have whole := continues.related (joins.related joinable before operand.related)
      rwa [List.append_assoc] at whole

theorem Lists.related {tokens : List Token} {trees : List Expr} {demand : Nat} :
    Lists accepts tokens trees demand → relates tokens (Expr.leavesOfAll trees)
  | .last item => by
      rw [Expr.leavesOfAll, Expr.leavesOfAll, List.append_nil]
      exact item.related
  | .more item items => joinable.joined nofun item.related items.related

theorem Encloses.related {tokens : List Token} {trees : List Expr} {demand : Nat} :
    Encloses accepts tokens trees demand → relates tokens (Expr.leavesOfAll trees)
  | .none => joinable.nil
  | .some items => items.related

end

/-- The tokens of a source are related to the leaves of its tree. -/
theorem Joinable.related_of_read {source : String} {tree : Expr} {lexemes : List Lexeme}
    (tokenized : tokenize source = .ok lexemes) (read : Expr.read source = .ok tree) :
    relates (lexemes.map Lexeme.token) tree.leaves := by
  obtain ⟨_, tokenized_too, run⟩ := bind_eq_ok.mp read
  obtain rfl := Except.ok.inj (tokenized.symm.trans tokenized_too)
  obtain ⟨tokens, tokens_eq, spells⟩ := exists_spells tokenized
  obtain ⟨demand, _, derives⟩ := derives_ofLexemes spells run
  rw [tokens_eq, ← List.append_nil tree.leaves]
  exact joinable.append (derives.related joinable) (joinable.plain nofun)

end

/-! ## The tokens of a leaf -/

/-- A literal or a reference with its tokens among some tokens. -/
inductive Written (tokens : List Token) : Expr → Prop
  /-- A literal. -/
  | literal {token : Token} {value : Value} (mem : token ∈ tokens)
      (literal : Literal token value) : Written tokens (.literal value)
  /-- A reference. -/
  | reference {key : String} {path : List Segment} (key_mem : .name key ∈ tokens)
      (path_mem : ∀ segment ∈ path, ∃ token ∈ tokens, Names token segment) :
      Written tokens (.reference ⟨key, path⟩)

/-- All leaves have their tokens among some tokens. -/
def AllWritten (tokens : List Token) (leaves : List Expr) : Prop :=
  ∀ leaf ∈ leaves, Written tokens leaf

theorem Written.mono {front tokens : List Token} {leaf : Expr} (subset : front ⊆ tokens)
    (written : Written front leaf) : Written tokens leaf := by
  cases written with
  | literal mem literal => exact .literal (subset mem) literal
  | reference key_mem path_mem =>
      refine .reference (subset key_mem) fun segment mem => ?_
      obtain ⟨token, token_mem, names⟩ := path_mem segment mem
      exact ⟨token, subset token_mem, names⟩

theorem Segments.exists_names {tokens : List Token} {segments : List Segment}
    (derives : Segments tokens segments) :
    ∀ segment ∈ segments, ∃ token ∈ tokens, Names token segment := by
  induction derives with
  | nil => nofun
  | cons names _ ih =>
      refine List.forall_mem_cons.mpr ⟨⟨_, by simp, names⟩, fun segment mem => ?_⟩
      obtain ⟨token, token_mem, named⟩ := ih segment mem
      exact ⟨token, by simp [token_mem], named⟩

theorem joinable_allWritten : Joinable AllWritten where
  nil := nofun
  append first second := List.forall_mem_append.mpr
    ⟨fun leaf mem => (first leaf mem).mono (List.subset_append_left _ _),
      fun leaf mem => (second leaf mem).mono (List.subset_append_right _ _)⟩
  plain _ := nofun
  literal literal := List.forall_mem_singleton.mpr (.literal List.mem_cons_self literal)
  reference segments := by
    refine List.forall_mem_singleton.mpr (.reference List.mem_cons_self fun segment mem => ?_)
    obtain ⟨token, token_mem, names⟩ := segments.exists_names segment mem
    exact ⟨token, List.mem_cons_of_mem _ token_mem, names⟩

/-! ## Doubles -/

/-- The double of a token. -/
def floatOfToken? : Token → Option Float
  | .float number => some number
  | _ => none

/-- The double of a literal. -/
def floatOfLeaf? : Expr → Option Float
  | .literal (.float number) => some number
  | _ => none

theorem floatOfToken?_eq_some_iff {token : Token} {number : Float} :
    floatOfToken? token = some number ↔ token = .float number := by
  fun_cases floatOfToken? token <;> simp_all

theorem floatOfLeaf?_eq_some_iff {leaf : Expr} {number : Float} :
    floatOfLeaf? leaf = some number ↔ leaf = .literal (.float number) := by
  fun_cases floatOfLeaf? leaf <;> simp_all

/-- Leaves have the doubles that some tokens have, in the same order. -/
def SameFloats (tokens : List Token) (leaves : List Expr) : Prop :=
  leaves.filterMap floatOfLeaf? = tokens.filterMap floatOfToken?

theorem Segments.floats_eq_nil {tokens : List Token} {segments : List Segment}
    (derives : Segments tokens segments) : tokens.filterMap floatOfToken? = [] := by
  induction derives with
  | nil => rfl
  | cons names _ ih => cases names <;> exact ih

theorem joinable_sameFloats : Joinable SameFloats where
  nil := rfl
  append first second := by
    rw [SameFloats, List.filterMap_append, List.filterMap_append, first, second]
  plain {token} leafless := by
    cases token with
    | float number => exact absurd (.float number) (leafless _)
    | _ => rfl
  literal literal := by cases literal <;> rfl
  reference segments := segments.floats_eq_nil.symm

end Grammar
end Assay
