import Assay.Proofs.Value
import Assay.Proofs.Decimal.Spelling
import Assay.Proofs.Expr.Settled
import Assay.Proofs.Expr.Spacing
import Assay.Proofs.Grammar.Leaf

/-!
# Infinite numbers from text

The doubles that are read from text are those of the literals of a source, and those that the texts
in a value spell. None of them is NaN, but a numeral that overflows becomes an infinity, in the
source as in a value. Every other numeral becomes a finite double.
-/

namespace Assay

open Decimal (Overflows)

/-! ## Literals -/

namespace Lexer

open Outcome

theorem wholeNumber_ne_float (digits : List Char) (number : Float) :
    wholeNumber digits ≠ .ok (.float number) := by
  intro made
  rw [wholeNumber] at made
  split at made <;> cases made

theorem exists_of_numberToken_eq_float {digits fraction exponent : List Char} {number : Float}
    (made : numberToken digits fraction exponent = .ok (.float number)) :
    ∃ decimal, Decimal.read? (digits ++ fraction ++ exponent) = some decimal ∧
      number = decimal.toFloat := by
  rw [numberToken] at made
  split at made
  · exact absurd made (wholeNumber_ne_float digits number)
  · split at made <;> cases made
    rename_i decimal read
    exact ⟨decimal, read, rfl⟩

/-- A double is read from its text as a numeral. -/
theorem exists_of_token_eq_float {afterDot : Bool} {first : Char} {text : List Char}
    {number : Float} (read : token afterDot first text = .ok ⟨.float number, []⟩) :
    ∃ decimal, Decimal.read? (first :: text) = some decimal ∧ number = decimal.toFloat := by
  cases token_readBy read with
  | number isDigit read =>
      cases afterDot with
      | true =>
          obtain ⟨token, made, reading_eq⟩ := map_eq_ok.mp read
          obtain rfl : token = .float number := congrArg Reading.value reading_eq
          exact absurd made (wholeNumber_ne_float _ number)
      | false =>
          obtain ⟨digits, fraction, exponent, -, whole, made⟩ := exists_parts isDigit read
          rw [whole, List.append_nil, ← List.append_assoc]
          exact exists_of_numberToken_eq_float made

end Lexer

namespace Grammar

variable {source : String} {lexemes : List Lexeme} {tree : Expr} {number : Float}

/-- The double of a lexeme is the one of the numeral that is its text. -/
theorem exists_of_lexeme_eq_float (tokenized : tokenize source = .ok lexemes) {lexeme : Lexeme}
    (mem : lexeme ∈ lexemes) (token_eq : lexeme.token = .float number) :
    ∃ decimal, Decimal.read? lexeme.text = some decimal ∧ number = decimal.toFloat := by
  rcases (Lexer.scanned_of_scan tokenized).reads lexeme mem with finished | ⟨_, _, _, text_eq, read⟩
  · rw [finished] at token_eq
    cases token_eq
  · rw [text_eq]
    rw [token_eq] at read
    exact Lexer.exists_of_token_eq_float read

/-- The literal doubles of a tree are the doubles among the lexemes of its source. -/
theorem mem_leaves_iff (tokenized : tokenize source = .ok lexemes)
    (read : Expr.read source = .ok tree) :
    .literal (.float number) ∈ tree.leaves ↔ ∃ lexeme ∈ lexemes, lexeme.token = .float number := by
  have same : SameFloats (lexemes.map Lexeme.token) tree.leaves :=
    joinable_sameFloats.related_of_read tokenized read
  have leaf_iff : .literal (.float number) ∈ tree.leaves ↔
      number ∈ tree.leaves.filterMap floatOfLeaf? := by
    simp [floatOfLeaf?_eq_some_iff]
  rw [leaf_iff, same]
  simp [floatOfToken?_eq_some_iff]

end Grammar

/-! ## Texts in values -/

namespace Value

variable {value part : Value} {number : Float}

/-- The parts of a value are read as what they spell. -/
theorem Contains.typed (contains : value.Contains part) : value.typed.Contains part.typed := by
  induction contains with
  | self value => exact .self value.typed
  | item mem _ ih =>
      rw [Value.typed, typedItems_eq_map]
      exact .item (List.mem_map_of_mem mem) ih
  | entry mem _ ih =>
      rw [Value.typed, typedEntries_eq_map]
      have typed_mem := List.mem_map_of_mem (f := fun entry => (entry.1, entry.2.typed)) mem
      rw [← Mapping.entries_map] at typed_mem
      exact .entry typed_mem ih

/-- Every double in what a value is read as is what a part of the value is read as. -/
theorem contains_typed_iff : value.typed.Contains (.float number) ↔
    ∃ part, value.Contains part ∧ part.typed = .float number := by
  constructor
  · intro contains
    induction value with
    | null | bool _ | int _ => cases contains
    | float other =>
        cases contains
        exact ⟨_, .self _, rfl⟩
    | text content =>
        refine ⟨_, .self _, ?_⟩
        rw [Value.typed] at contains ⊢
        have kept_or_scalar := ofText_eq_or_isScalar content
        generalize ofText content = read at contains kept_or_scalar ⊢
        cases contains with
        | self => rfl
        | item | entry => rcases kept_or_scalar with kept | scalar <;> contradiction
    | list items ih =>
        rw [Value.typed, typedItems_eq_map] at contains
        cases contains with
        | item mem contains =>
            obtain ⟨item, item_mem, rfl⟩ := List.mem_map.mp mem
            obtain ⟨part, part_of, read⟩ := ih item item_mem contains
            exact ⟨part, .item item_mem part_of, read⟩
    | mapping entries ih =>
        rw [Value.typed, typedEntries_eq_map] at contains
        cases contains with
        | entry mem contains =>
            rw [Mapping.entries_map] at mem
            obtain ⟨entry, entry_mem, rfl⟩ := List.mem_map.mp mem
            obtain ⟨part, part_of, read⟩ := ih entry entry_mem contains
            exact ⟨part, .entry entry_mem part_of, read⟩
  · rintro ⟨part, contains, read⟩
    rw [← read]
    exact contains.typed

/-- No text in a value spells NaN, and no double that is read from the value is infinite exactly if
no text in it overflows, unless the value itself has a double that is not finite. -/
theorem floats_typed (finite : ∀ number ∈ value.floats, number.isFinite = true) :
    (∀ number ∈ value.typed.floats, number.isNaN = false) ∧
      ((∀ number ∈ value.typed.floats, number.isFinite = true) ↔
        ∀ content, value.Contains (.text content) → ¬TextOverflows content) := by
  have origin {number : Float} (mem : number ∈ value.typed.floats) :
      number.isFinite = true ∨
        ∃ content, value.Contains (.text content) ∧ ofText content = .float number := by
    obtain ⟨part, contains, read⟩ := contains_typed_iff.mp (mem_floats_iff.mp mem)
    cases part with
    | float other =>
        cases read
        exact .inl (finite number (mem_floats_iff.mpr contains))
    | text content => exact .inr ⟨content, contains, read⟩
    | _ => cases read
  refine ⟨fun number mem => ?_, fun all content contains => ?_, fun fits number mem => ?_⟩
  · rcases origin mem with kept | ⟨content, -, spelled⟩
    · exact Binary64.isNaN_of_isFinite kept
    · exact isNaN_of_ofText spelled
  · refine isFinite_ofText_iff.mp fun number spelled => all number ?_
    rw [mem_floats_iff, ← spelled]
    exact contains.typed
  · rcases origin mem with kept | ⟨content, contains, spelled⟩
    · exact kept
    · exact isFinite_ofText_iff.mpr (fits content contains) number spelled

end Value

namespace Expr

variable {source : String} {lexemes : List Lexeme} {tree : Expr}

theorem literal_floats (tokenized : tokenize source = .ok lexemes)
    (read : Expr.read source = .ok tree) :
    (∀ number, .literal (.float number) ∈ tree.leaves → number.isNaN = false) ∧
      ((∀ number, .literal (.float number) ∈ tree.leaves → number.isFinite = true) ↔
        ∀ lexeme ∈ lexemes, ∀ number, lexeme.token = .float number →
          ¬Overflows lexeme.text) := by
  have leaf_iff {number : Float} : .literal (.float number) ∈ tree.leaves ↔
      ∃ lexeme ∈ lexemes, lexeme.token = .float number :=
    Grammar.mem_leaves_iff tokenized read
  have spelled {lexeme : Lexeme} (mem : lexeme ∈ lexemes) {number : Float}
      (token_eq : lexeme.token = .float number) :=
    Grammar.exists_of_lexeme_eq_float tokenized mem token_eq
  refine ⟨fun number leaf => ?_, fun all lexeme mem number token_eq => ?_,
    fun fits number leaf => ?_⟩
  · obtain ⟨lexeme, mem, token_eq⟩ := leaf_iff.mp leaf
    obtain ⟨decimal, -, rfl⟩ := spelled mem token_eq
    exact decimal.isNaN_toFloat
  · rintro ⟨other, other_read, high⟩
    have finite := all number (leaf_iff.mpr ⟨lexeme, mem, token_eq⟩)
    obtain ⟨decimal, decimal_read, rfl⟩ := spelled mem token_eq
    obtain rfl := Option.some.inj (decimal_read.symm.trans other_read)
    exact not_lt.mpr high (decimal.isFinite_toFloat_iff.mp finite)
  · obtain ⟨lexeme, mem, token_eq⟩ := leaf_iff.mp leaf
    obtain ⟨decimal, read, rfl⟩ := spelled mem token_eq
    exact decimal.isFinite_toFloat_iff.mpr
      (not_le.mp fun high => fits lexeme mem _ token_eq ⟨decimal, read, high⟩)

end Expr

/-- The doubles that are read from text are numbers, and all of them are finite exactly if no
numeral in the text overflows. -/
theorem floats_of_text {source : String} {lexemes : List Lexeme} {tree : Expr} {value : Value}
    (tokenized : tokenize source = .ok lexemes) (read : Expr.read source = .ok tree)
    (finite : ∀ number ∈ value.floats, number.isFinite = true) :
    ((∀ number, .literal (.float number) ∈ tree.leaves → number.isNaN = false) ∧
      ((∀ number, .literal (.float number) ∈ tree.leaves → number.isFinite = true) ↔
        ∀ lexeme ∈ lexemes, ∀ number, lexeme.token = .float number →
          ¬Overflows lexeme.text)) ∧
      (∀ number ∈ value.typed.floats, number.isNaN = false) ∧
      ((∀ number ∈ value.typed.floats, number.isFinite = true) ↔
        ∀ content, value.Contains (.text content) → ¬Value.TextOverflows content) :=
  ⟨Expr.literal_floats tokenized read, Value.floats_typed finite⟩

/-- The lexemes of a sum with an operand that overflows. -/
def overflowing : List Lexeme :=
  [⟨.float (1.0 / 0.0), 0, "1e999".toList⟩, ⟨.plus, 6, ['+']⟩, ⟨.float 2.5, 8, "2.5".toList⟩,
    ⟨.finish, 11, []⟩]

theorem floats_of_text_overflowing :
    let tree : Expr := .binary .add (.literal (.float (1.0 / 0.0))) (.literal (.float 2.5))
    let value : Value := .list [.float 0.5, .text " -1e999"]
    tokenize "1e999 + 2.5" = .ok overflowing ∧ Expr.read "1e999 + 2.5" = .ok tree ∧
      (∀ number ∈ value.floats, number.isFinite = true) ∧
      ((∀ number, .literal (.float number) ∈ tree.leaves → number.isNaN = false) ∧
        ((∀ number, .literal (.float number) ∈ tree.leaves → number.isFinite = true) ↔
          ∀ lexeme ∈ overflowing, ∀ number, lexeme.token = .float number →
            ¬Overflows lexeme.text)) ∧
      (∀ number ∈ value.typed.floats, number.isNaN = false) ∧
      ((∀ number ∈ value.typed.floats, number.isFinite = true) ↔
        ∀ content, value.Contains (.text content) → ¬Value.TextOverflows content) := by
  intro tree value
  have tokenized : tokenize "1e999 + 2.5" = .ok overflowing := by with_unfolding_all rfl
  have read : Expr.read "1e999 + 2.5" = .ok tree := by with_unfolding_all rfl
  have finite : ∀ number ∈ value.floats, number.isFinite = true :=
    List.forall_mem_singleton.mpr (by decide)
  exact ⟨tokenized, read, finite, floats_of_text tokenized read finite⟩

/-- The same numeral in a source and in a text becomes an infinity, with no double in the text. -/
theorem exists_read_infinite : ∃ number : Float,
    Expr.read "1e999" = .ok (.literal (.float number)) ∧ (Value.text "1e999").floats = [] ∧
      (Value.text "1e999").typed = .float number ∧ number.isInf = true := by
  refine ⟨1.0 / 0.0, ?_, rfl, ?_, rfl⟩
  · with_unfolding_all rfl
  · with_unfolding_all rfl

end Assay
