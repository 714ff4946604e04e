import Mathlib.Data.List.DropRight
import Assay.Expr.Diagnosis
import Assay.Proofs.Expr.Placement
import Assay.Proofs.Grammar.Bounds

/-!
# What is shown of a source that cannot be read

A fault stands at a lexeme or at what starts no token. The source is shown around it: a piece of
its line and, below, a caret. The piece is clipped by characters while the position of the fault
counts bytes, and the caret is under the character at that position all the same.
-/

namespace Assay

/-- A fault stands at a piece of the source, or at its end. -/
theorem Expr.read_fault_placed {source : String} {fault : SyntaxFault}
    (failed : Expr.read source = .error fault) :
    Text.Placed source.toList fault.position fault.text := by
  rcases Outcome.bind_eq_error.mp failed with failed | ⟨lexemes, tokenized, failed⟩
  · exact tokenize_fault_placed failed
  · obtain ⟨place, reaches, position_eq, text_eq⟩ := Expr.exists_reaches_of_ofLexemes failed
    rw [position_eq, text_eq]
    have within := reaches.within (Cursor.within_start tokenized)
    exact tokenize_placed tokenized _ (List.mem_of_getElem? within.getElem?_index)

namespace ParseError

/-! ## Excerpts -/

/-- A piece of one line of a text, with a place in it. -/
structure Excerpt (chars : List Char) where
  /-- The lines above. -/
  above : List Char
  /-- What the line has in front of the piece. -/
  left : List Char
  /-- The piece of the line. -/
  line : List Char
  /-- What the line has behind the piece. -/
  right : List Char
  /-- The lines below, from the end of the line on. -/
  below : List Char
  /-- The number of characters of the piece that stand in front of the place. -/
  column : Nat
  whole : chars = above ++ (left ++ line ++ right) ++ below
  above_ends : ∀ char ∈ above.getLast?, char = '\n'
  below_starts : ∀ char ∈ below.head?, char = '\n'
  one_line : '\n' ∉ left ++ line ++ right
  short : line.length ≤ 80
  column_le : column ≤ line.length

namespace Excerpt

variable {chars : List Char}

/-- The byte at the place. -/
def position (excerpt : Excerpt chars) : Nat :=
  Text.width (excerpt.above ++ excerpt.left ++ excerpt.line.take excerpt.column)

/-- The piece of the line, and on a line of its own a caret behind one space for each character in
front of the place. -/
def shown (excerpt : Excerpt chars) : List Char :=
  excerpt.line ++ '\n' :: List.replicate excerpt.column ' ' ++ ['^']

end Excerpt

section

variable (front back : List Char)

/-- The line of the end of a text. -/
def lineBefore : List Char := front.rtakeWhile (· != '\n')

/-- The line of the front of a text. -/
def lineAfter : List Char := back.takeWhile (· != '\n')

/-- What is shown of the line in front of a place. -/
def before : List Char := (lineBefore front).drop ((lineBefore front).length - span)

/-- What is shown of the line from a place on. -/
def after : List Char := (lineAfter back).take span

theorem newline_notMem_line : '\n' ∉ lineBefore front ++ lineAfter back := by
  intro mem
  rcases List.mem_append.mp mem with mem | mem
  · exact absurd (List.mem_rtakeWhile_imp mem) (by simp)
  · exact absurd (List.mem_takeWhile_imp mem) (by simp)

theorem length_before_le : (before front).length ≤ span := by
  rw [before, List.length_drop]
  omega

theorem length_after_le : (after back).length ≤ span := List.length_take_le _ _

/-- The line at a place, with what is shown of it in the middle. -/
theorem line_eq : lineBefore front ++ lineAfter back =
    (lineBefore front).take ((lineBefore front).length - span) ++ (before front ++ after back) ++
      (lineAfter back).drop span := by
  rw [before, after, ← List.append_assoc, List.take_append_drop, List.append_assoc,
    List.take_append_drop]

theorem above_append : front.rdropWhile (· != '\n') ++ lineBefore front = front :=
  List.rdropWhile_append_rtakeWhile

theorem append_below : lineAfter back ++ back.dropWhile (· != '\n') = back :=
  List.takeWhile_append_dropWhile

/-- A text is cut within a line, between the lines above and below it. -/
theorem lines_eq : front ++ back = front.rdropWhile (· != '\n') ++
    (lineBefore front ++ lineAfter back) ++ back.dropWhile (· != '\n') := by
  rw [← List.append_assoc, above_append, List.append_assoc, append_below]

/-- The excerpt of a text around the place between two parts of it. -/
def Excerpt.around : Excerpt (front ++ back) where
  above := front.rdropWhile (· != '\n')
  left := (lineBefore front).take ((lineBefore front).length - span)
  line := before front ++ after back
  right := (lineAfter back).drop span
  below := back.dropWhile (· != '\n')
  column := (before front).length
  whole := by rw [← line_eq, ← lines_eq]
  above_ends := by
    intro char last
    obtain ⟨nonempty, rfl⟩ := List.mem_getLast?_eq_getLast last
    simpa using List.rdropWhile_last_not (· != '\n') front nonempty
  below_starts := by
    intro char first
    have stops := List.head?_dropWhile_not (· != '\n') back
    rw [first] at stops
    simpa using stops
  one_line := line_eq front back ▸ newline_notMem_line front back
  short := by
    rw [List.length_append]
    exact Nat.add_le_add (length_before_le front) (length_after_le back)
  column_le := by
    rw [List.length_append]
    exact Nat.le_add_right _ _

theorem Excerpt.position_around : (Excerpt.around front back).position = Text.width front := by
  rw [position, around]
  dsimp only
  rw [List.take_left, List.append_assoc, before, List.take_append_drop, above_append]

/-- What stands at the place is shown there, unless the line ends there. -/
theorem Excerpt.getElem?_around (visible : ∀ char ∈ back.head?, char ≠ '\n') :
    (Excerpt.around front back).line[(Excerpt.around front back).column]? = back.head? := by
  rw [around]
  dsimp only
  rw [List.getElem?_append_right (Nat.le_refl _), Nat.sub_self, after, lineAfter]
  cases back with
  | nil => rfl
  | cons char rest =>
      rw [List.takeWhile_cons_of_pos (by simpa using visible char rfl)]
      rfl

end

/-! ## The context of an error -/

theorem splitAt_width (front back : List Char) :
    splitAt (Text.width front) (front ++ back) = (front, back) := by
  induction front with
  | nil => cases back <;> rfl
  | cons char front ih =>
      have wide : Text.width (char :: front) ≠ 0 :=
        Nat.ne_of_gt (Nat.add_pos_left char.utf8Size_pos _)
      rw [List.cons_append, splitAt, if_neg wide, Text.width_cons, Nat.add_sub_cancel_left, ih]

/-- The context of an error is the excerpt around its position. -/
theorem toList_context {error : ParseError} {front back : List Char}
    (whole : error.source.toList = front ++ back)
    (position_eq : Text.width front = error.position) :
    error.context.toList = (Excerpt.around front back).shown := by
  have parts : excerpt error.source error.fault.position = (before front, after back) := by
    rw [excerpt, whole, ← show Text.width front = error.fault.position from position_eq,
      splitAt_width]
    rfl
  rw [context, parts]
  dsimp only
  rw [String.toList_ofList]
  rfl

/-- An error at the end of its source or at a character that is no blank is shown with a caret
behind the piece of the line or under that character. -/
theorem exists_excerpt {error : ParseError} {piece : List Char}
    (placed : Text.Placed error.source.toList error.position piece) :
    ∃ excerpt : Excerpt error.source.toList, excerpt.position = error.position ∧
      error.context.toList = excerpt.shown ∧
      (error.position = error.source.utf8ByteSize ∧ excerpt.column = excerpt.line.length ∨
        ∃ front first back, error.source.toList = front ++ first :: back ∧
          Text.width front = error.position ∧ Text.isBlank first = false ∧
          excerpt.line[excerpt.column]? = some first) := by
  obtain ⟨front, back, whole, position_eq, visible⟩ := placed.exists_split
  have context_eq := toList_context whole position_eq
  -- A newline is a blank, so the line goes on at the place or the source ends there.
  have no_newline : ∀ char ∈ back.head?, char ≠ '\n' := by
    rintro _ is_first rfl
    exact absurd (visible _ is_first) (by decide)
  have above_caret := Excerpt.getElem?_around front back no_newline
  have size_eq := Text.width_toList error.source
  rw [whole] at size_eq ⊢
  refine ⟨.around front back, ?_, context_eq, ?_⟩
  · rw [Excerpt.position_around, position_eq]
  · cases back with
    | nil =>
        rw [List.append_nil, position_eq] at size_eq
        have behind := List.getElem?_eq_none_iff.mp above_caret
        exact .inl ⟨size_eq, Nat.le_antisymm (Excerpt.around front []).column_le behind⟩
    | cons first back =>
        exact .inr ⟨front, first, back, rfl, position_eq, visible _ rfl, above_caret⟩

end ParseError

/-- Nothing is out of bounds when a source is rejected. Its scan only ever cuts it between
characters, and the lexemes are pieces of it. The productions only get to lexemes that are there, of
which they blame one. The error stands at the end of the source or at a character that is no blank.
A piece of one line is shown, and the caret below it is under that character, or just behind the
piece at the end of the source. -/
theorem Expression.bounds_of_read_eq_error {source : String} {error : ParseError}
    (rejected : Expression.read source = .error error) :
    (∃ state, (Lexer.State.start source).Reaches state ∧ state.Stops (tokenize source)) ∧
      (∀ state, (Lexer.State.start source).Reaches state →
        String.Pos.Raw.IsValid source ⟨state.position⟩ ∧
          ∀ lexeme ∈ state.lexemes, Text.Placed source.toList lexeme.position lexeme.text) ∧
      (∀ lexemes, tokenize source = .ok lexemes →
        (∃ place, (Cursor.start lexemes).Reaches place ∧
          error.position = place.lexeme.position ∧ error.fault.text = place.lexeme.text) ∧
        ∀ place, (Cursor.start lexemes).Reaches place →
          lexemes[place.index]? = some place.lexeme) ∧
      Text.Placed source.toList error.position error.fault.text ∧
      String.Pos.Raw.IsValid source ⟨error.position⟩ ∧
      String.Pos.Raw.IsValid source ⟨error.position + Text.width error.fault.text⟩ ∧
      ∃ excerpt : ParseError.Excerpt source.toList, excerpt.position = error.position ∧
        error.context.toList = excerpt.shown ∧
        (error.position = source.utf8ByteSize ∧ excerpt.column = excerpt.line.length ∨
          ∃ front first back, source.toList = front ++ first :: back ∧
            Text.width front = error.position ∧ Text.isBlank first = false ∧
            excerpt.line[excerpt.column]? = some first) := by
  obtain ⟨fault, failed, rfl⟩ : ∃ fault, Expr.read source = .error fault ∧
      error = ⟨source, fault⟩ := by
    rw [Expression.read] at rejected
    split at rejected <;> cases rejected
    exact ⟨_, ‹_›, rfl⟩
  have placed : Text.Placed (ParseError.mk source fault).source.toList
      (ParseError.mk source fault).position fault.text := Expr.read_fault_placed failed
  refine ⟨Lexer.State.exists_stops_tokenize source, ?scan, ?parse, placed, placed.isValid.1,
    placed.isValid.2, ParseError.exists_excerpt placed⟩
  case scan =>
    intro state reaches
    obtain ⟨⟨front, whole, position_eq⟩, lexemes_placed⟩ :=
      reaches.sound (Lexer.State.sound_start source)
    exact ⟨position_eq ▸ Text.isValid_width whole, lexemes_placed⟩
  case parse =>
    intro lexemes tokenized
    rw [Expr.read, tokenized] at failed
    exact ⟨Expr.exists_reaches_of_ofLexemes failed, fun place reaches =>
      (reaches.within (Cursor.within_start tokenized)).getElem?_index⟩

/-- A parenthesis too many, on the second line and behind characters of more than one byte. -/
def unbalanced : ParseError where
  source := "x ==\n  \"é€\" )"
  fault := {
    position := 15
    expected := .operatorOrEnd
    found := .closeParen
    text := [')']
    atStart := false
    call := none }

/-- Its caret is under the parenthesis. -/
theorem Expression.bounds_of_read_eq_error_unbalanced :
    Expression.read unbalanced.source = .error unbalanced ∧
      unbalanced.context = "  \"é€\" )\n       ^" ∧
      Text.Placed unbalanced.source.toList 15 [')'] ∧
      String.Pos.Raw.IsValid unbalanced.source ⟨15⟩ ∧
      ∃ excerpt : ParseError.Excerpt unbalanced.source.toList, excerpt.position = 15 ∧
        unbalanced.context.toList = excerpt.shown ∧
        excerpt.line[excerpt.column]? = some ')' := by
  have rejected : Expression.read unbalanced.source = .error unbalanced := by
    with_unfolding_all rfl
  obtain ⟨-, -, -, placed, valid, -, excerpt, position_eq, context_eq, caret⟩ :=
    Expression.bounds_of_read_eq_error rejected
  refine ⟨rejected, by decide, placed, valid, excerpt, position_eq, context_eq, ?_⟩
  rcases caret with ⟨ended, -⟩ | ⟨front, first, back, whole, place_eq, -, above_caret⟩
  · exact absurd ended (by decide)
  · have cut := ParseError.splitAt_width front (first :: back)
    rw [← whole, place_eq] at cut
    have parenthesis : (ParseError.splitAt 15 unbalanced.source.toList).2 = [')'] := by decide
    obtain ⟨rfl, -⟩ := List.cons.inj ((congrArg Prod.snd cut).symm.trans parenthesis)
    exact above_caret

end Assay
