import Mathlib.Data.List.TakeWhile
import Assay.Proofs.Decimal.Parts
import Assay.Proofs.Expr.Lexemes
import Assay.Proofs.Grammar.Position

/-!
# Blanks between tokens

Where a token ends depends on the characters after it, but a blank ends every token where it ended
before. The texts of the tokens of a source, written with blanks between them in any way, are
therefore the same tokens at other positions, and they are read as the same tree or with the same
fault.
-/

namespace Assay
namespace Lexer

open Outcome
open Decimal (Digits)

/-- What comes next is a blank or the end of the source. -/
def Separated (rest : List Char) : Prop := ∀ char ∈ rest.head?, Text.isBlank char = true

section

variable {chars rest other : List Char} {first : Char}

theorem Separated.head_ne (separated : Separated rest) {char : Char}
    (visible : Text.isBlank char = false) : ∀ next ∈ rest.head?, next ≠ char := by
  rintro next is_next rfl
  rw [separated next is_next] at visible
  cases visible

/-- What comes next goes on with no word. -/
def Wordless (rest : List Char) : Prop := ∀ char ∈ rest.head?, Text.isWordChar char = false

theorem Wordless.digitless (wordless : Wordless rest) : Decimal.Digitless rest := by
  intro char next
  have no_word := wordless char next
  simp only [Text.isWordChar, Bool.or_eq_false_iff] at no_word
  exact no_word.1.2

/-- A blank goes on with no word. -/
theorem Separated.wordless (separated : Separated rest) : Wordless rest := by
  intro char next
  refine Bool.eq_false_iff.mpr fun word => ?_
  exact separated.head_ne (Text.isBlank_of_isWordChar word) char next rfl

/-- A blank goes on with no number. -/
theorem Separated.ends (separated : Separated rest) : Decimal.Ends rest := by
  intro char next
  have apart {other : Char} (visible : Text.isBlank other = false) : (char == other) = false :=
    beq_eq_false_iff_ne.mpr (separated.head_ne visible char next)
  rw [Decimal.goesOn, separated.wordless.digitless char next, apart rfl, apart rfl, apart rfl]
  rfl

theorem Separated.digitless (separated : Separated rest) : Decimal.Digitless rest :=
  separated.ends.digitless

/-! ## Numbers -/

theorem digits_takeWhile (digit : Text.isDigit first = true) (rest : List Char) :
    Digits (first :: rest.takeWhile Text.isDigit) where
  ne_nil := List.cons_ne_nil _ _
  isDigit := List.forall_mem_cons.mpr ⟨digit, fun _ => List.mem_takeWhile_imp⟩

/-- The first of some digits, with what is taken behind it. -/
theorem exists_first_digit {digits : List Char} (digits_ok : Digits digits)
    (digitless : Decimal.Digitless rest) :
    ∃ digit others, digits = digit :: others ∧ Text.isDigit digit = true ∧
      (others ++ rest).takeWhile Text.isDigit = others ∧
      (others ++ rest).dropWhile Text.isDigit = rest := by
  have taken := Decimal.takeWhile_digits_append digits_ok.isDigit digitless
  have dropped := Decimal.dropWhile_digits_append digits_ok.isDigit digitless
  obtain ⟨digit, others, rfl, isDigit⟩ := digits_ok.exists_eq_cons
  rw [List.cons_append, List.takeWhile_cons_of_pos isDigit] at taken
  rw [List.cons_append, List.dropWhile_cons_of_pos isDigit] at dropped
  exact ⟨digit, others, rfl, isDigit, (List.cons.inj taken).2, dropped⟩

theorem fraction_spec (chars : List Char) : Decimal.Fraction (fraction chars).value ∧
    (fraction chars).value ++ (fraction chars).rest = chars := by
  fun_cases fraction chars with
  | case1 digit rest isDigit => exact ⟨.present (digits_takeWhile isDigit rest), by simp⟩
  | case2 => exact ⟨.absent, rfl⟩
  | case3 => exact ⟨.absent, rfl⟩

theorem fraction_append {value : List Char} (fraction_ok : Decimal.Fraction value)
    (digitless : Decimal.Digitless rest) (pointless : ∀ next ∈ rest.head?, next ≠ '.') :
    fraction (value ++ rest) = ⟨value, rest⟩ := by
  cases fraction_ok with
  | absent =>
      cases rest with
      | nil => rfl
      | cons next rest =>
          rw [List.nil_append, fraction.eq_def]
          split
          · rename_i point
            exact absurd (List.cons.inj point).1 (pointless next rfl)
          · rfl
  | present digits_ok =>
      obtain ⟨digit, others, rfl, isDigit, taken, dropped⟩ :=
        exists_first_digit digits_ok digitless
      simp [fraction, isDigit, taken, dropped]

theorem exponentDigits_spec {front : List Char} (front_ok : ∀ {digits : List Char},
    Digits digits → Decimal.Exponent (front ++ digits)) (chars : List Char) :
    Decimal.Exponent (exponentDigits front chars).value ∧
      (exponentDigits front chars).value ++ (exponentDigits front chars).rest = front ++ chars := by
  fun_cases exponentDigits front chars with
  | case1 digit rest isDigit => exact ⟨front_ok (digits_takeWhile isDigit rest), by simp⟩
  | case2 => exact ⟨.absent, rfl⟩
  | case3 => exact ⟨.absent, by simp⟩

theorem exponent_spec (chars : List Char) : Decimal.Exponent (exponent chars).value ∧
    (exponent chars).value ++ (exponent chars).rest = chars := by
  fun_cases exponent chars with
  | case2 mark isMark sign digits isSign =>
      exact exponentDigits_spec (fun digits_ok => .signed isMark isSign digits_ok) digits
  | case3 mark isMark sign digits noSign =>
      exact exponentDigits_spec (fun digits_ok => .bare isMark digits_ok) (sign :: digits)
  | _ => exact ⟨.absent, rfl⟩

theorem exponentDigits_append {front digits : List Char} (digits_ok : Digits digits)
    (digitless : Decimal.Digitless rest) :
    exponentDigits front (digits ++ rest) = ⟨front ++ digits, rest⟩ := by
  obtain ⟨digit, others, rfl, isDigit, taken, dropped⟩ := exists_first_digit digits_ok digitless
  simp [exponentDigits, isDigit, taken, dropped]

theorem exponent_append {value : List Char} (exponent_ok : Decimal.Exponent value)
    (separated : Separated rest) : exponent (value ++ rest) = ⟨value, rest⟩ := by
  cases exponent_ok with
  | absent =>
      cases rest with
      | nil => rfl
      | cons next rest =>
          have not_small : next ≠ 'e' := separated.head_ne (by decide) next rfl
          have not_large : next ≠ 'E' := separated.head_ne (by decide) next rfl
          exact if_neg (not_or.mpr ⟨not_small, not_large⟩)
  | @bare mark digits mark_ok digits_ok =>
      have read : exponentDigits [mark] (digits ++ rest) = ⟨[mark] ++ digits, rest⟩ :=
        exponentDigits_append digits_ok separated.digitless
      obtain ⟨digit, others, rfl, isDigit⟩ := digits_ok.exists_eq_cons
      have not_plus : digit ≠ '+' := Text.ne_of_isDigit isDigit (by decide)
      have not_minus : digit ≠ '-' := Text.ne_of_isDigit isDigit (by decide)
      simp only [List.cons_append, exponent, mark_ok, not_plus, not_minus, or_self, if_true,
        if_false]
      exact read
  | @signed mark sign digits mark_ok sign_ok digits_ok =>
      simp only [List.cons_append, exponent, mark_ok, sign_ok, if_true]
      exact exponentDigits_append digits_ok separated.digitless

/-- The token of a number in parts. -/
def numberToken (digits fraction exponent : List Char) : Except Obstacle Token :=
  if fraction.isEmpty && exponent.isEmpty then wholeNumber digits
  else
    match Decimal.read? (digits ++ fraction ++ exponent) with
    | some decimal => .ok (.float decimal.toFloat)
    | none => .error (.badNumber, digits ++ fraction ++ exponent)

theorem number_eq (chars : List Char) :
    number false chars =
      (numberToken (chars.takeWhile Text.isDigit) (fraction (chars.dropWhile Text.isDigit)).value
          (exponent (fraction (chars.dropWhile Text.isDigit)).rest).value).map fun token =>
        ⟨token, (exponent (fraction (chars.dropWhile Text.isDigit)).rest).rest⟩ := by
  have fraction_whole := (fraction_spec (chars.dropWhile Text.isDigit)).2
  have exponent_whole := (exponent_spec (fraction (chars.dropWhile Text.isDigit)).rest).2
  simp only [number, numberToken, Bool.false_eq_true, if_false]
  split
  · rename_i plain
    -- Without a fraction and an exponent, what is left after them is what the digits left.
    rw [Bool.and_eq_true, List.isEmpty_iff, List.isEmpty_iff] at plain
    rw [plain.2, List.nil_append] at exponent_whole
    rw [plain.1, List.nil_append] at fraction_whole
    rw [exponent_whole, fraction_whole]
  · cases Decimal.read? _ <;> rfl

theorem number_append {digits fraction exponent : List Char} (digits_ok : Digits digits)
    (fraction_ok : Decimal.Fraction fraction) (exponent_ok : Decimal.Exponent exponent)
    (separated : Separated rest) :
    number false (digits ++ (fraction ++ (exponent ++ rest))) =
      (numberToken digits fraction exponent).map fun token => ⟨token, rest⟩ := by
  have digitless := fraction_ok.digitless_append exponent_ok separated.ends
  have fraction_read := fraction_append fraction_ok (exponent_ok.digitless_append separated.ends)
    (exponent_ok.pointless_append separated.ends)
  rw [number_eq, Decimal.takeWhile_digits_append digits_ok.isDigit digitless,
    Decimal.dropWhile_digits_append digits_ok.isDigit digitless, fraction_read,
    exponent_append exponent_ok separated]

/-- A number in parts. -/
structure Parts (digits fraction exponent : List Char) : Prop where
  digits_ok : Digits digits
  fraction_ok : Decimal.Fraction fraction
  exponent_ok : Decimal.Exponent exponent

/-- A number that is not behind a point is read in parts. -/
theorem exists_parts {reading : Reading Token} (isDigit : Text.isDigit first = true)
    (read : number false (first :: rest) = .ok reading) :
    ∃ digits fraction exponent, Parts digits fraction exponent ∧
      first :: rest = digits ++ (fraction ++ (exponent ++ reading.rest)) ∧
      numberToken digits fraction exponent = .ok reading.value := by
  have digits_ok : Digits ((first :: rest).takeWhile Text.isDigit) := by
    rw [List.takeWhile_cons_of_pos isDigit]
    exact digits_takeWhile isDigit rest
  have digits_whole := List.takeWhile_append_dropWhile (p := Text.isDigit) (l := first :: rest)
  generalize first :: rest = chars at *
  obtain ⟨fraction_ok, fraction_whole⟩ := fraction_spec (chars.dropWhile Text.isDigit)
  obtain ⟨exponent_ok, exponent_whole⟩ :=
    exponent_spec (fraction (chars.dropWhile Text.isDigit)).rest
  rw [number_eq] at read
  obtain ⟨token, made, rfl⟩ := map_eq_ok.mp read
  exact ⟨_, _, _, ⟨digits_ok, fraction_ok, exponent_ok⟩,
    by rw [exponent_whole, fraction_whole, digits_whole], made⟩

/-- What a token is read off is read as the same token in front of a blank or the end. -/
def Cuts (read : List Char → Except Obstacle (Reading Token)) (chars : List Char)
    (reading : Reading Token) : Prop :=
  ∃ text, chars = text ++ reading.rest ∧
    ∀ rest, Separated rest → read (text ++ rest) = .ok ⟨reading.value, rest⟩

theorem number_cuts {afterDot : Bool} {reading : Reading Token}
    (isDigit : Text.isDigit first = true) (read : number afterDot (first :: rest) = .ok reading) :
    Cuts (number afterDot) (first :: rest) reading := by
  cases afterDot with
  | true =>
      have digits_ok : Digits ((first :: rest).takeWhile Text.isDigit) := by
        rw [List.takeWhile_cons_of_pos isDigit]
        exact digits_takeWhile isDigit rest
      obtain ⟨token, made, rfl⟩ := map_eq_ok.mp read
      refine ⟨_, List.takeWhile_append_dropWhile.symm, fun rest separated => ?_⟩
      have taken := Decimal.takeWhile_digits_append digits_ok.isDigit separated.digitless
      have dropped := Decimal.dropWhile_digits_append digits_ok.isDigit separated.digitless
      simp only [number, if_true, taken, dropped, made]
      rfl
  | false =>
      obtain ⟨digits, fraction, exponent, parts, whole, made⟩ := exists_parts isDigit read
      refine ⟨digits ++ (fraction ++ exponent), by simp [whole], fun rest separated => ?_⟩
      rw [List.append_assoc, List.append_assoc, number_append parts.digits_ok parts.fraction_ok
        parts.exponent_ok separated, made]
      rfl

theorem quoted_cuts {reading : Reading (List Char)} (read : quoted chars = some reading) :
    ∃ text, chars = text ++ reading.rest ∧
      ∀ rest, quoted (text ++ rest) = some ⟨reading.value, rest⟩ := by
  fun_induction quoted chars generalizing reading with
  | case1 => cases read
  | case2 rest =>
    cases read
    exact ⟨['"'], rfl, fun _ => rfl⟩
  | case3 => cases read
  | case4 escaped rest ih =>
    obtain ⟨inner, inner_eq, rfl⟩ := Option.map_eq_some_iff.mp read
    obtain ⟨text, rfl, read_too⟩ := ih inner_eq
    refine ⟨'\\' :: escaped :: text, rfl, fun rest => ?_⟩
    rw [List.cons_append, List.cons_append, quoted, read_too]
    rfl
  | case5 char rest not_quote not_end not_escape ih =>
    obtain ⟨inner, inner_eq, rfl⟩ := Option.map_eq_some_iff.mp read
    obtain ⟨text, rfl, read_too⟩ := ih inner_eq
    refine ⟨char :: text, rfl, fun rest => ?_⟩
    have no_escape : char ≠ '\\' := by
      rintro rfl
      generalize text ++ inner.rest = others at not_end not_escape
      cases others with
      | nil => exact not_end rfl rfl
      | cons escaped others => exact not_escape escaped others rfl rfl
    rw [List.cons_append, quoted, read_too]
    · rfl
    · rintro rfl
      exact not_quote rfl
    · exact fun is_escape _ => no_escape is_escape
    · exact fun _ _ is_escape _ => no_escape is_escape

theorem sign_separated (separated : Separated rest) : sign ('/' :: rest) = .ok ⟨.slash, rest⟩ ∧
    sign ('<' :: rest) = .ok ⟨.less, rest⟩ ∧ sign ('>' :: rest) = .ok ⟨.greater, rest⟩ := by
  cases rest with
  | nil => exact ⟨rfl, rfl, rfl⟩
  | cons next rest =>
      have not_slash : next ≠ '/' := separated.head_ne (by decide) next rfl
      have not_equals : next ≠ '=' := separated.head_ne (by decide) next rfl
      simp [sign, not_slash, not_equals]

/-- Only a slash, a less and a greater sign go on with another character, which is no blank. -/
theorem sign_cuts {reading : Reading Token} (read : sign (first :: rest) = .ok reading) :
    Cuts sign (first :: rest) reading := by
  unfold sign at read
  split at read
  case h_1 | h_2 | h_3 | h_4 | h_5 =>
    rename_i split
    cases read
    exact ⟨[_, _], split, fun _ _ => rfl⟩
  case h_12 =>
    rename_i split
    cases read
    exact ⟨['/'], split, fun _ separated => (sign_separated separated).1⟩
  case h_15 =>
    rename_i split
    cases read
    exact ⟨['<'], split, fun _ separated => (sign_separated separated).2.1⟩
  case h_16 =>
    rename_i split
    cases read
    exact ⟨['>'], split, fun _ separated => (sign_separated separated).2.2⟩
  case h_24 =>
    rename_i split
    cases split
  all_goals
    rename_i split
    cases read
  all_goals exact ⟨[_], split, fun _ _ => rfl⟩

/-- A word is read up to the first character that goes on with no word. -/
theorem word_append {word : List Char} (isWord : ∀ char ∈ word, Text.isWordChar char = true)
    (wordless : Wordless rest) :
    (word ++ rest).takeWhile Text.isWordChar = word ∧
      (word ++ rest).dropWhile Text.isWordChar = rest := by
  rw [List.takeWhile_append_of_pos isWord, List.dropWhile_append_of_pos isWord]
  cases rest with
  | nil => exact ⟨List.append_nil word, rfl⟩
  | cons next rest =>
      have no_word : ¬Text.isWordChar next = true := Bool.eq_false_iff.mp (wordless next rfl)
      rw [List.takeWhile_cons_of_neg no_word, List.dropWhile_cons_of_neg no_word]
      exact ⟨List.append_nil word, rfl⟩

/-- What takes a character at least takes the first one. -/
theorem Cuts.cons {read : List Char → Except Obstacle (Reading Token)} {reading : Reading Token}
    (cuts : Cuts read (first :: rest) reading)
    (shorter : reading.rest.length < (first :: rest).length) :
    ∃ text, rest = text ++ reading.rest ∧
      ∀ other, Separated other → read (first :: (text ++ other)) = .ok ⟨reading.value, other⟩ := by
  obtain ⟨text, whole, read_too⟩ := cuts
  cases text with
  | nil =>
      rw [whole] at shorter
      exact absurd shorter (Nat.lt_irrefl _)
  | cons head text =>
      obtain ⟨rfl, rest_eq⟩ := List.cons.inj whole
      exact ⟨text, rest_eq, read_too⟩

/-- A token is read off its own text in front of a blank or the end. -/
theorem token_cuts {afterDot : Bool} {reading : Reading Token}
    (read : token afterDot first rest = .ok reading) :
    ∃ text, rest = text ++ reading.rest ∧ ∀ other, Separated other →
      token afterDot first (text ++ other) = .ok ⟨reading.value, other⟩ := by
  have shorter := token_length read
  rw [token] at read
  split at read
  case isTrue isDigit =>
    obtain ⟨text, whole, read_too⟩ := (number_cuts isDigit read).cons shorter
    refine ⟨text, whole, fun other separated => ?_⟩
    rw [token, if_pos isDigit, read_too other separated]
  case isFalse no_digit =>
  split at read
  case isTrue quote =>
    split at read
    · rename_i quotation quotation_eq
      cases read
      obtain ⟨text, whole, read_too⟩ := quoted_cuts quotation_eq
      refine ⟨text, whole, fun other _ => ?_⟩
      rw [token, if_neg no_digit, if_pos quote, read_too]
    · cases read
  case isFalse no_quote =>
  split at read
  case isTrue isStart =>
    cases read
    have isWord : Text.isWordChar first = true := by
      rw [Text.isWordStart, Bool.and_eq_true] at isStart
      exact isStart.1
    have word_ok : ∀ char ∈ first :: rest.takeWhile Text.isWordChar, Text.isWordChar char = true :=
      List.forall_mem_cons.mpr ⟨isWord, fun _ => List.mem_takeWhile_imp⟩
    refine ⟨rest.takeWhile Text.isWordChar, ?_, fun other separated => ?_⟩
    · rw [List.dropWhile_cons_of_pos isWord, List.takeWhile_append_dropWhile]
    · obtain ⟨taken, dropped⟩ := word_append word_ok separated.wordless
      rw [List.cons_append] at taken dropped
      rw [token, if_neg no_digit, if_neg no_quote, if_pos isStart, taken, dropped,
        List.takeWhile_cons_of_pos isWord]
  case isFalse no_start =>
    obtain ⟨text, whole, read_too⟩ := (sign_cuts read).cons shorter
    refine ⟨text, whole, fun other separated => ?_⟩
    rw [token, if_neg no_digit, if_neg no_quote, if_neg no_start, read_too other separated]

/-! ## Sources -/

/-- Nothing but blanks. -/
def Blank (chars : List Char) : Prop := ∀ char ∈ chars, Text.isBlank char = true

-- By the members of the list: the instance for finite types would try all characters there are.
instance (chars : List Char) : Decidable (Blank chars) :=
  List.decidableBAll (fun char => Text.isBlank char = true) chars

/-- Texts with blanks after each of them, at least one in front of the next. -/
inductive Joined : List (List Char) → List Char → Prop where
  | nil : Joined [] []
  | cons {text gap chars : List Char} {texts : List (List Char)} (blank : Blank gap)
      (apart : texts ≠ [] → gap ≠ []) (joined : Joined texts chars) :
      Joined (text :: texts) (text ++ (gap ++ chars))

/-- Texts with blanks in front of, between and after them, at least one between two of them. -/
inductive Spaced (texts : List (List Char)) : List Char → Prop where
  | mk {gap chars : List Char} (blank : Blank gap) (joined : Joined texts chars) :
      Spaced texts (gap ++ chars)

variable {position : Nat} {afterDot : Bool} {lexemes : List Lexeme}

theorem scan_blank {gap : List Char} (blank : Blank gap) :
    scan position afterDot (gap ++ rest) = scan (position + Text.width gap) afterDot rest := by
  induction gap generalizing position with
  | nil => rfl
  | cons char gap ih =>
      obtain ⟨isBlank, blank⟩ := List.forall_mem_cons.mp blank
      have skipped : scan position afterDot (char :: (gap ++ rest)) =
          scan (position + char.utf8Size) afterDot (gap ++ rest) := by
        rw [scan.eq_def]
        exact if_pos isBlank
      rw [List.cons_append, skipped, ih blank, Text.width_cons, Nat.add_assoc]

theorem take_text (text rest : List Char) :
    (first :: (text ++ rest)).take ((first :: (text ++ rest)).length - rest.length) =
      first :: text := by
  rw [← List.cons_append, List.length_append, Nat.add_sub_cancel]
  exact List.take_left

theorem scan_token {value : Token} {text : List Char} (visible : Text.isBlank first = false)
    (read : token afterDot first (text ++ rest) = .ok ⟨value, rest⟩) :
    scan position afterDot (first :: (text ++ rest)) =
      (scan (position + Text.width (first :: text)) value.isDot rest).map fun lexemes =>
        ⟨value, position, first :: text⟩ :: lexemes := by
  rw [scan.eq_def]
  dsimp only
  rw [if_neg (Bool.eq_false_iff.mp visible)]
  split
  · rename_i obstacle failed
    rw [read] at failed
    cases failed
  · rename_i reading succeeded
    rw [read] at succeeded
    cases succeeded
    dsimp only
    rw [take_text]

/-- A source that has been scanned: blanks and, after them, the text of a token each time. -/
inductive Scanned : Nat → Bool → List Char → List Lexeme → Prop where
  | finish {position : Nat} {afterDot : Bool} {gap : List Char} (blank : Blank gap) :
      Scanned position afterDot gap [⟨.finish, position + Text.width gap, []⟩]
  | token {position : Nat} {afterDot : Bool} {gap text rest : List Char} {first : Char}
      {value : Token} {lexemes : List Lexeme} (blank : Blank gap)
      (visible : Text.isBlank first = false)
      (read : token afterDot first (text ++ rest) = .ok ⟨value, rest⟩)
      (others : Scanned (position + Text.width gap + Text.width (first :: text)) value.isDot rest
        lexemes) :
      Scanned position afterDot (gap ++ first :: (text ++ rest))
        (⟨value, position + Text.width gap, first :: text⟩ :: lexemes)

theorem Scanned.blank_cons (isBlank : Text.isBlank first = true)
    (scanned : Scanned (position + first.utf8Size) afterDot rest lexemes) :
    Scanned position afterDot (first :: rest) lexemes := by
  have longer {gap : List Char} (blank : Blank gap) : Blank (first :: gap) :=
    List.forall_mem_cons.mpr ⟨isBlank, blank⟩
  have place_eq (gap : List Char) :
      position + first.utf8Size + Text.width gap = position + Text.width (first :: gap) := by
    rw [Text.width_cons, Nat.add_assoc]
  cases scanned with
  | finish blank =>
      rw [place_eq]
      exact .finish (longer blank)
  | token blank visible read others =>
      rw [place_eq] at others ⊢
      rw [← List.cons_append]
      exact .token (longer blank) visible read others

theorem scanned_of_scan (scanned : scan position afterDot chars = .ok lexemes) :
    Scanned position afterDot chars lexemes := by
  have blank : Blank [] := nofun
  fun_induction scan position afterDot chars generalizing lexemes with
  | case1 =>
      cases scanned
      exact .finish blank
  | case2 position afterDot first rest isBlank ih => exact (ih scanned).blank_cons isBlank
  | case3 => cases scanned
  | case4 position afterDot first rest visible =>
      rename_i reading read text ih
      obtain ⟨others, scanned_rest, rfl⟩ := map_eq_ok.mp scanned
      obtain ⟨tail, rfl, -⟩ := token_cuts read
      have text_eq : text = first :: tail := take_text tail reading.rest
      clear_value text
      subst text_eq
      exact .token blank (Bool.eq_false_iff.mpr visible) read (ih scanned_rest)

/-- A lexeme is the end of the source, or its text is read as its token also on its own. -/
theorem Scanned.reads (scanned : Scanned position afterDot chars lexemes) :
    ∀ lexeme ∈ lexemes, lexeme.token = .finish ∨ ∃ afterDot first text,
      lexeme.text = first :: text ∧ Lexer.token afterDot first text = .ok ⟨lexeme.token, []⟩ := by
  induction scanned with
  | finish => exact List.forall_mem_singleton.mpr (.inl rfl)
  | @token _ afterDot _ text rest first value _ _ _ read _ ih =>
      obtain ⟨tail, whole, read_too⟩ := token_cuts read
      obtain rfl : text = tail := List.append_cancel_right whole
      have alone := read_too [] nofun
      rw [List.append_nil] at alone
      exact List.forall_mem_cons.mpr ⟨.inr ⟨afterDot, first, text, rfl, alone⟩, ih⟩

theorem Joined.separated {gap : List Char} {texts : List (List Char)} (blank : Blank gap)
    (apart : texts ≠ [] → gap ≠ []) (joined : Joined texts chars) : Separated (gap ++ chars) := by
  cases gap with
  | nil =>
      cases joined with
      | nil => exact nofun
      | cons => exact absurd rfl (apart (List.cons_ne_nil _ _))
  | cons char gap =>
      rintro _ ⟨⟩
      exact blank char List.mem_cons_self

/-- The texts of scanned lexemes are scanned as the same lexemes, wherever they stand. -/
theorem scan_joined (scanned : scan position afterDot chars = .ok lexemes)
    (joined : Joined (lexemes.dropLast.map Lexeme.text) other) (place : Nat) :
    ∃ others, scan place afterDot other = .ok others ∧
      others.map Lexeme.unplaced = lexemes.map Lexeme.unplaced := by
  fun_induction scan position afterDot chars generalizing lexemes place other with
  | case1 position =>
      -- Only the end is left, which has no text.
      cases scanned
      cases joined
      exact ⟨[⟨.finish, place, []⟩], by rw [scan.eq_def], rfl⟩
  | case2 position afterDot first rest blank ih => exact ih scanned joined place
  | case3 => cases scanned
  | case4 position afterDot first rest visible =>
      rename_i reading read text ih
      obtain ⟨followers, scanned_rest, rfl⟩ := map_eq_ok.mp scanned
      obtain ⟨body, last, rfl, -⟩ := scan_ends scanned_rest
      obtain ⟨tail, rfl, read_too⟩ := token_cuts read
      have text_eq : text = first :: tail := take_text tail reading.rest
      clear_value text
      subst text_eq
      -- The first text of the other source is this lexeme's, and behind its gap are the others.
      rw [← List.cons_append, List.dropLast_concat, List.map_cons] at joined
      cases joined with
      | @cons _ gap chars _ blank apart joined =>
          have followers_joined : Joined ((body ++ [last]).dropLast.map Lexeme.text) chars := by
            rwa [List.dropLast_concat]
          obtain ⟨others, scanned_too, same⟩ := ih scanned_rest followers_joined
            (place + Text.width (first :: tail) + Text.width gap)
          have cut := read_too (gap ++ chars) (joined.separated blank apart)
          refine ⟨⟨reading.value, place, first :: tail⟩ :: others, ?_, ?_⟩
          · rw [List.cons_append, scan_token (Bool.eq_false_iff.mpr visible) cut, scan_blank blank,
              scanned_too]
            rfl
          · rw [List.map_cons, List.map_cons, same]
            rfl

theorem scan_spaced (scanned : scan position afterDot chars = .ok lexemes)
    (spaced : Spaced (lexemes.dropLast.map Lexeme.text) other) (place : Nat) :
    ∃ others, scan place afterDot other = .ok others ∧
      others.map Lexeme.unplaced = lexemes.map Lexeme.unplaced := by
  cases spaced with
  | mk blank joined =>
      rw [scan_blank blank]
      exact scan_joined scanned joined _

end

end Lexer

/-- The texts of the tokens of a source, with blanks between them in any way, are the same tokens
elsewhere, and they are read as the same tree or with a fault of the same signature. -/
theorem tokenize_spaced {source respaced : String} {lexemes : List Lexeme}
    (tokenized : tokenize source = .ok lexemes)
    (spaced : Lexer.Spaced (lexemes.dropLast.map Lexeme.text) respaced.toList) :
    (∃ others, tokenize respaced = .ok others ∧
        others.map Lexeme.unplaced = lexemes.map Lexeme.unplaced) ∧
      (Expr.read respaced).mapError SyntaxFault.signature =
        (Expr.read source).mapError SyntaxFault.signature := by
  obtain ⟨others, tokenized_too, same⟩ := Lexer.scan_spaced tokenized spaced 0
  refine ⟨⟨others, tokenized_too, same⟩, ?_⟩
  rw [Expr.read, Expr.read, tokenized, show tokenize respaced = .ok others from tokenized_too]
  exact Grammar.ofLexemes_eq_of_unplaced same

/-- The lexemes of two indexes and a comparison without a blank. -/
def crowded : List Lexeme :=
  [⟨.name "a", 0, ['a']⟩, ⟨.dot, 1, ['.']⟩, ⟨.int 0, 2, ['0']⟩, ⟨.dot, 3, ['.']⟩,
    ⟨.int 1, 4, ['1']⟩, ⟨.atMost, 5, ['<', '=']⟩, ⟨.minus, 7, ['-']⟩, ⟨.int 2, 8, ['2']⟩,
    ⟨.finish, 9, []⟩]

theorem tokenize_spaced_crowded :
    tokenize "a.0.1<=-2" = .ok crowded ∧
      (∃ others, tokenize "\na . 0\t. 1 <= -  2 " = .ok others ∧
        others.map Lexeme.unplaced = crowded.map Lexeme.unplaced) ∧
      (Expr.read "\na . 0\t. 1 <= -  2 ").mapError SyntaxFault.signature =
        (Expr.read "a.0.1<=-2").mapError SyntaxFault.signature := by
  have tokenized : tokenize "a.0.1<=-2" = .ok crowded := by with_unfolding_all rfl
  have joined : Lexer.Joined (crowded.dropLast.map Lexeme.text)
      (['a'] ++ ([' '] ++ (['.'] ++ ([' '] ++ (['0'] ++ (['\t'] ++ (['.'] ++ ([' '] ++
        (['1'] ++ ([' '] ++ (['<', '='] ++ ([' '] ++ (['-'] ++ ([' ', ' '] ++
          (['2'] ++ ([' '] ++ [])))))))))))))))) := by
    repeat' constructor
    all_goals decide
  have spaced : Lexer.Spaced (crowded.dropLast.map Lexeme.text)
      "\na . 0\t. 1 <= -  2 ".toList :=
    .mk (show Lexer.Blank ['\n'] by decide) joined
  exact ⟨tokenized, tokenize_spaced tokenized spaced⟩

end Assay
