import Assay.Proofs.Expr.Arithmetic
import Assay.Proofs.Expr.Spacing
import Assay.Proofs.Grammar.Leaf

/-!
# References as they are displayed

The display of a reference is its key with a point and a segment for each step. The key and the
fields that a source can name are words and no keywords, and an index behind a point is read without
a fraction or an exponent, so every token of the display ends where the next one starts. A reference
that stands in a source is therefore read back from its display.
-/

namespace Assay

open Outcome

namespace Lexer

/-- A letter or an underscore with letters, digits and underscores after it, and no keyword. -/
structure IsName (name : String) : Prop where
  exists_first : ∃ first rest, name.toList = first :: rest ∧ Text.isWordStart first = true ∧
    ∀ char ∈ rest, Text.isWordChar char = true
  keyword_eq : keyword name = .name name

theorem isWordChar_of_isWordStart {char : Char} (start : Text.isWordStart char = true) :
    Text.isWordChar char = true := by
  rw [Text.isWordStart, Bool.and_eq_true] at start
  exact start.1

theorem keyword_eq_name {word name : String} (made : keyword word = .name name) : word = name := by
  rw [keyword] at made
  repeat' split at made
  all_goals cases made
  rfl

/-- What is read as a name is a name. -/
theorem isName_of_token {afterDot : Bool} {first : Char} {rest : List Char}
    {reading : Reading Token} {name : String} (read : token afterDot first rest = .ok reading)
    (token_eq : reading.value = .name name) : IsName name := by
  have readBy := token_readBy read
  rw [token_eq] at readBy
  cases readBy with
  | word isStart =>
      have isWord := isWordChar_of_isWordStart isStart
      have word_eq := keyword_eq_name token_eq
      refine ⟨⟨first, rest.takeWhile Text.isWordChar, ?_, isStart,
        fun _ => List.mem_takeWhile_imp⟩, word_eq ▸ token_eq⟩
      rw [← word_eq, String.toList_ofList, List.takeWhile_cons_of_pos isWord]

end Lexer

/-! ## Segments -/

/-- The segments that a source can name. -/
inductive Segment.Nameable : Segment → Prop
  /-- A field with a name. -/
  | field {name : String} (isName : Lexer.IsName name) : Nameable (.field name)
  /-- An index within the 64-bit words. -/
  | index {place : Nat} (bound : place < 2 ^ 63) : Nameable (.index place)
  /-- Every element. -/
  | wildcard : Nameable .wildcard

/-- The references that a source can name. -/
structure Reference.Nameable (target : Reference) : Prop where
  key : Lexer.IsName target.key
  path : ∀ segment ∈ target.path, segment.Nameable

/-- The segments of a path as they are displayed, each after a point. -/
def Segment.displayAll (path : List Segment) : List Char :=
  path.flatMap fun segment => '.' :: segment.display.toList

theorem Reference.toList_display (target : Reference) :
    target.display.toList = target.key.toList ++ Segment.displayAll target.path := by
  obtain ⟨key, path⟩ := target
  rw [display]
  induction path generalizing key with
  | nil => simp [Segment.displayAll]
  | cons segment path ih =>
      rw [List.map_cons, String.intercalate_cons_cons, String.toList_append, String.toList_append,
        ih, List.append_assoc]
      rfl

namespace Lexer

/-- Characters are scanned as some tokens, wherever they stand. -/
def Scans (afterDot : Bool) (chars : List Char) (tokens : List Token) : Prop :=
  ∀ position, ∃ lexemes, scan position afterDot chars = .ok lexemes ∧
    lexemes.map Lexeme.token = tokens

section

variable {afterDot : Bool} {rest : List Char} {tokens : List Token}

theorem scans_nil (afterDot : Bool) : Scans afterDot [] [.finish] :=
  fun position => ⟨[⟨.finish, position, []⟩], by rw [scan.eq_def], rfl⟩

theorem scans_cons {first : Char} {text : List Char} {value : Token}
    (visible : Text.isBlank first = false)
    (read : token afterDot first (text ++ rest) = .ok ⟨value, rest⟩)
    (scans : Scans value.isDot rest tokens) :
    Scans afterDot (first :: (text ++ rest)) (value :: tokens) := by
  intro position
  obtain ⟨lexemes, scanned, rfl⟩ := scans (position + Text.width (first :: text))
  exact ⟨_, (scan_token visible read).trans (congrArg (Except.map _) scanned), rfl⟩

theorem Scans.name {name : String} (scans : Scans false rest tokens) (isName : IsName name)
    (wordless : Wordless rest) : Scans afterDot (name.toList ++ rest) (.name name :: tokens) := by
  obtain ⟨first, others, name_eq, isStart, others_ok⟩ := isName.exists_first
  have first_ok := isWordChar_of_isWordStart isStart
  have no_digit : ¬Text.isDigit first = true := by
    rw [Text.isWordStart, Bool.and_eq_true] at isStart
    simpa using isStart.2
  have no_quote : first ≠ '"' := by
    rintro rfl
    cases isStart
  obtain ⟨taken, dropped⟩ := word_append (List.forall_mem_cons.mpr ⟨first_ok, others_ok⟩) wordless
  rw [List.cons_append] at taken dropped
  rw [name_eq, List.cons_append]
  have read : token afterDot first (others ++ rest) = .ok ⟨.name name, rest⟩ := by
    rw [token, if_neg no_digit, if_neg no_quote, if_pos isStart, taken, dropped, ← name_eq,
      String.ofList_toList, isName.keyword_eq]
  exact scans_cons (Text.isBlank_of_isWordChar first_ok) read scans

/-- An index behind a point ends with its digits, also in front of another point. -/
theorem Scans.index {place : Nat} (scans : Scans false rest tokens) (bound : place < 2 ^ 63)
    (digitless : Decimal.Digitless rest) :
    Scans true ((toString place).toList ++ rest) (.int (Int64.ofInt place) :: tokens) := by
  have digits_eq : (toString place).toList = Nat.toDigits 10 place := String.toList_ofList
  have digits_ok := Decimal.digits_toDigits place
  have isWord : IsWord (place : Int) := ⟨by omega, by omega⟩
  have read : number true (Nat.toDigits 10 place ++ rest) =
      .ok ⟨.int (Int64.ofInt place), rest⟩ := by
    have taken := Decimal.takeWhile_digits_append digits_ok.isDigit digitless
    have dropped := Decimal.dropWhile_digits_append digits_ok.isDigit digitless
    simp only [number, if_true, taken, dropped, wholeNumber, Decimal.numeral_toDigits,
      word?_of_isWord isWord]
    rfl
  obtain ⟨first, others, digits_cons, isDigit⟩ := digits_ok.exists_eq_cons
  rw [digits_cons, List.cons_append] at read
  rw [digits_eq, digits_cons, List.cons_append]
  exact scans_cons (Text.isBlank_of_isDigit isDigit) ((if_pos isDigit).trans read) scans

theorem Scans.exists_segment {segment : Segment} (scans : Scans false rest tokens)
    (nameable : segment.Nameable) (wordless : Wordless rest) :
    ∃ token, Grammar.Names token segment ∧
      Scans true (segment.display.toList ++ rest) (token :: tokens) := by
  cases nameable with
  | field isName => exact ⟨_, .field _, scans.name isName wordless⟩
  | @index place bound =>
      have number_eq : (Int64.ofInt place).toInt = place := toInt_ofInt ⟨by omega, by omega⟩
      exact ⟨_, .index number_eq, scans.index bound wordless.digitless⟩
  | wildcard =>
      have read : token true '*' ([] ++ rest) = .ok ⟨.star, rest⟩ := rfl
      exact ⟨_, .wildcard, scans_cons rfl read scans⟩

theorem wordless_displayAll (path : List Segment) : Wordless (Segment.displayAll path) := by
  cases path with
  | nil => nofun
  | cons segment path =>
      rintro _ ⟨⟩
      rfl

/-- Each segment of a path is scanned behind its point. -/
theorem exists_scans_displayAll {path : List Segment}
    (nameable : ∀ segment ∈ path, segment.Nameable) :
    ∃ tokens, Grammar.Segments tokens path ∧
      Scans false (Segment.displayAll path) (tokens ++ [.finish]) := by
  induction path with
  | nil => exact ⟨[], .nil, scans_nil false⟩
  | cons segment path ih =>
      obtain ⟨here, nameable⟩ := List.forall_mem_cons.mp nameable
      obtain ⟨tokens, segments, scans⟩ := ih nameable
      obtain ⟨token, names, scans⟩ := scans.exists_segment here (wordless_displayAll path)
      have point (rest : List Char) : Lexer.token false '.' ([] ++ rest) = .ok ⟨.dot, rest⟩ := rfl
      have scans_point := scans_cons (by rfl) (point _) scans
      refine ⟨.dot :: token :: tokens, .cons names segments, ?_⟩
      rw [Segment.displayAll, List.flatMap_cons]
      exact scans_point

/-- A reference is scanned as its key and its segments. -/
theorem exists_scans_display {target : Reference} (nameable : target.Nameable) :
    ∃ tokens, Grammar.Segments tokens target.path ∧
      Scans false target.display.toList (.name target.key :: tokens ++ [.finish]) := by
  obtain ⟨tokens, segments, scans⟩ := exists_scans_displayAll nameable.path
  refine ⟨tokens, segments, ?_⟩
  rw [Reference.toList_display]
  exact scans.name nameable.key (wordless_displayAll target.path)

end

end Lexer

/-! ## References of a source -/

namespace Grammar

open Lexer Outcome

variable {source : String} {lexemes : List Lexeme}

/-- The names among the tokens of a source are names. -/
theorem isName_of_mem (tokenized : tokenize source = .ok lexemes) {name : String}
    (mem : .name name ∈ lexemes.map Lexeme.token) : IsName name := by
  obtain ⟨lexeme, lexeme_mem, token_eq⟩ := List.mem_map.mp mem
  rcases (scanned_of_scan tokenized).reads lexeme lexeme_mem with finished | ⟨_, _, _, _, read⟩
  · rw [finished] at token_eq
    cases token_eq
  · exact isName_of_token read token_eq

theorem nameable_of_mem (tokenized : tokenize source = .ok lexemes) {token : Token}
    (mem : token ∈ lexemes.map Lexeme.token) {segment : Segment} (names : Names token segment) :
    segment.Nameable := by
  cases names with
  | field name => exact .field (isName_of_mem tokenized mem)
  | @index number place value =>
      have bound := number.toInt_lt
      exact .index (by omega)
  | wildcard => exact .wildcard

theorem nameable_of_read {tree : Expr} (read : Expr.read source = .ok tree) {target : Reference}
    (mem : .reference target ∈ tree.leaves) : target.Nameable := by
  obtain ⟨lexemes, tokenized, -⟩ := bind_eq_ok.mp read
  have written := joinable_allWritten.related_of_read tokenized read
  cases written _ mem with
  | reference key_mem path_mem =>
      refine ⟨isName_of_mem tokenized key_mem, fun segment segment_mem => ?_⟩
      obtain ⟨token, token_mem, names⟩ := path_mem segment segment_mem
      exact nameable_of_mem tokenized token_mem names

end Grammar

namespace Expr

open Grammar

/-- A reference that a source can name is read back from its display. -/
theorem read_display_of_nameable {target : Reference} (nameable : target.Nameable) :
    read target.display = .ok (.reference target) := by
  obtain ⟨tokens, segments, scans⟩ := Lexer.exists_scans_display nameable
  obtain ⟨lexemes, tokenized, tokens_eq⟩ := scans 0
  have derives : Derives Builtin.takes .expression (.name target.key :: tokens)
      (.reference target) 0 := .of_primary (.reference segments) .expression
  exact read_of_derives tokenized tokens_eq derives (Nat.zero_le _)

/-- Every reference in an expression that has been read is read back from its display. -/
theorem read_display {source : String} {tree : Expr} (read_tree : read source = .ok tree)
    {target : Reference} (mem : .reference target ∈ tree.leaves) :
    read target.display = .ok (.reference target) :=
  read_display_of_nameable (nameable_of_read read_tree mem)

/-- An index of an index, every element, and a field with the name of an exponent. -/
theorem read_display_indexes :
    let target : Reference := ⟨"a", [.index 0, .index 1, .wildcard, .index 5, .field "e3"]⟩
    let tree : Expr := .binary .add (.reference target) (.reference ⟨"len", []⟩)
    read "a . 00.1.*.5 .e3 + len" = .ok tree ∧ target.display = "a.0.1.*.5.e3" ∧
      read target.display = .ok (.reference target) := by
  intro target tree
  have read_tree : read "a . 00.1.*.5 .e3 + len" = .ok tree := by with_unfolding_all rfl
  have mem : .reference target ∈ tree.leaves := List.mem_cons_self
  exact ⟨read_tree, by decide +kernel, read_display read_tree mem⟩

end Expr
end Assay
