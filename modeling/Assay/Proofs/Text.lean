import Assay.Text

/-!
# Places in a text

A position counts the bytes in front of it, while a text is read character by character. The bytes
of some characters at the front of a text lead to a place between two characters, or to its end.
-/

namespace Assay.Text

theorem width_eq_utf8ByteSize (chars : List Char) :
    width chars = (String.ofList chars).utf8ByteSize := by
  induction chars with
  | nil => rfl
  | cons char chars ih =>
      rw [width_cons, ih, String.ofList_cons, String.utf8ByteSize_append,
        String.utf8ByteSize_singleton]

theorem width_toList (source : String) : width source.toList = source.utf8ByteSize := by
  rw [width_eq_utf8ByteSize, String.ofList_toList]

/-- A text can be cut in front of any of its characters, and at its end. -/
theorem isValid_width {source : String} {front back : List Char}
    (split : source.toList = front ++ back) : String.Pos.Raw.IsValid source ⟨width front⟩ := by
  refine String.Pos.Raw.isValid_iff_exists_append.mpr
    ⟨String.ofList front, String.ofList back, ?_, ?_⟩
  · rw [← String.ofList_append, ← split, String.ofList_toList]
  · exact congrArg String.Pos.Raw.mk (width_eq_utf8ByteSize front)

/-- A piece of a text that stands at a position. It starts with a character that is no blank, or
it is the end, which has no characters. -/
inductive Placed (chars : List Char) : Nat → List Char → Prop where
  /-- The end of the text. -/
  | finish : Placed chars (width chars) []
  /-- A piece with characters. -/
  | visible {front piece back : List Char} {first : Char} (visible : isBlank first = false)
      (whole : chars = front ++ first :: (piece ++ back)) :
      Placed chars (width front) (first :: piece)

/-- A text is cut in front of a piece, at its end or at a character that is no blank. -/
theorem Placed.exists_split {chars piece : List Char} {position : Nat}
    (placed : Placed chars position piece) :
    ∃ front back, chars = front ++ back ∧ width front = position ∧
      ∀ char ∈ back.head?, isBlank char = false := by
  cases placed with
  | finish => exact ⟨chars, [], (List.append_nil chars).symm, rfl, nofun⟩
  | visible visible whole =>
      refine ⟨_, _, whole, rfl, ?_⟩
      rintro _ ⟨⟩
      exact visible

theorem Placed.exists_slice {chars piece : List Char} {position : Nat}
    (placed : Placed chars position piece) :
    ∃ front back, chars = front ++ (piece ++ back) ∧ width front = position := by
  cases placed with
  | finish => exact ⟨chars, [], (List.append_nil chars).symm, rfl⟩
  | visible _ whole => exact ⟨_, _, whole, rfl⟩

/-- Both ends of a piece are places where the text can be cut. -/
theorem Placed.isValid {source : String} {position : Nat} {piece : List Char}
    (placed : Placed source.toList position piece) :
    String.Pos.Raw.IsValid source ⟨position⟩ ∧
      String.Pos.Raw.IsValid source ⟨position + width piece⟩ := by
  cases placed with
  | finish =>
      have valid := isValid_width (List.append_nil source.toList).symm
      exact ⟨valid, valid⟩
  | @visible front piece back first _ whole =>
      refine ⟨isValid_width whole, ?_⟩
      rw [← List.cons_append, ← List.append_assoc] at whole
      rw [← width_append]
      exact isValid_width whole

end Assay.Text
