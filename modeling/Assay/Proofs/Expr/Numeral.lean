import Assay.Expr.Evaluate
import Assay.Proofs.Output
import Assay.Proofs.Decimal.Spelling
import Assay.Proofs.Expr.Spacing
import Assay.Proofs.Grammar.Exactness

/-!
# Numbers of a source and of a text

A source with one number in it and a text with the same characters mean the same. The source is read
by its digits, its fraction and its exponent, the text without the blanks around it as a word or, if
it is none, as a double, and both come to one number of one type.
-/

namespace Assay

namespace Decimal

section

variable {first : Char} {others : List Char}

theorem splitSign_unsigned (isDigit : Text.isDigit first = true) :
    splitSign (first :: others) = (false, first :: others) :=
  Decimal.splitSign_signed isDigit others false

/-- What starts with a digit is a whole number if it goes on with digits only. -/
theorem readWord?_unsigned (isDigit : Text.isDigit first = true) :
    readWord? (String.ofList (first :: others)) =
      if (first :: others).all Text.isDigit then word? (Text.numeral (first :: others))
      else none := by
  rw [readWord?, readInt?, String.toList_ofList, splitSign_unsigned isDigit]
  simp only [List.isEmpty_cons, Bool.false_or]
  cases (first :: others).all Text.isDigit <;> rfl

end

end Decimal

namespace Text

/-- Trimming takes the blanks off both ends. -/
theorem trimChars_enclosed {front chars back : List Char} (front_blank : Lexer.Blank front)
    (back_blank : Lexer.Blank back) (visible : ∀ char ∈ chars, isBlank char = false)
    (nonempty : chars ≠ []) : trimChars (front ++ (chars ++ back)) = chars := by
  obtain ⟨first, others, rfl⟩ := List.exists_cons_of_ne_nil nonempty
  have first_visible : ¬isBlank first = true :=
    Bool.eq_false_iff.mp (visible first List.mem_cons_self)
  have visible_reverse : ∀ char ∈ (first :: others).reverse, isBlank char = false :=
    fun char mem => visible char (List.mem_reverse.mp mem)
  rw [trimChars, List.dropWhile_append_of_pos front_blank, List.cons_append,
    List.dropWhile_cons_of_neg first_visible, ← List.cons_append,
    dropEnd_append_of_all _ back_blank, dropEnd, Decimal.dropWhile_isBlank visible_reverse,
    List.reverse_reverse]

end Text

namespace Lexer

open Outcome
open Decimal (IsNumeric Numeric isNumeric_of_isDigit isNumeric_of_mark)

section

variable {digits fraction exponent : List Char}

theorem Parts.exists_eq_cons (parts : Parts digits fraction exponent) :
    ∃ first others, digits ++ fraction ++ exponent = first :: others ∧
      Text.isDigit first = true := by
  obtain ⟨first, others, rfl, isDigit⟩ := parts.digits_ok.exists_eq_cons
  exact ⟨first, others ++ fraction ++ exponent, rfl, isDigit⟩

theorem Parts.numeric (parts : Parts digits fraction exponent) :
    Numeric (digits ++ fraction ++ exponent) := by
  have fraction_numeric : ∀ char ∈ fraction, IsNumeric char := by
    cases parts.fraction_ok with
    | absent => exact nofun
    | present digits_ok =>
        exact List.forall_mem_cons.mpr ⟨.inr (.inl rfl), isNumeric_of_isDigit digits_ok.isDigit⟩
  have exponent_numeric : ∀ char ∈ exponent, IsNumeric char := by
    cases parts.exponent_ok with
    | absent => exact nofun
    | bare mark_ok digits_ok =>
        exact List.forall_mem_cons.mpr
          ⟨isNumeric_of_mark mark_ok, isNumeric_of_isDigit digits_ok.isDigit⟩
    | signed mark_ok sign_ok digits_ok =>
        exact List.forall_mem_cons.mpr ⟨isNumeric_of_mark mark_ok, List.forall_mem_cons.mpr
          ⟨.inr (.inr (.inr (.inr sign_ok))), isNumeric_of_isDigit digits_ok.isDigit⟩⟩
  obtain ⟨first, others, chars_eq, isDigit⟩ := parts.exists_eq_cons
  refine ⟨⟨first, by rw [chars_eq]; exact List.mem_cons_self, isDigit⟩, ?_⟩
  simp only [List.forall_mem_append]
  exact ⟨⟨isNumeric_of_isDigit parts.digits_ok.isDigit, fraction_numeric⟩, exponent_numeric⟩

/-- Only digits without a fraction and an exponent are nothing but digits. -/
theorem Parts.all_isDigit (parts : Parts digits fraction exponent) :
    (digits ++ fraction ++ exponent).all Text.isDigit =
      (fraction.isEmpty && exponent.isEmpty) := by
  have digits_all : digits.all Text.isDigit = true := List.all_eq_true.mpr parts.digits_ok.isDigit
  have fraction_all : fraction.all Text.isDigit = fraction.isEmpty := by
    cases parts.fraction_ok <;> rfl
  have exponent_all : exponent.all Text.isDigit = exponent.isEmpty := by
    cases parts.exponent_ok with
    | absent => rfl
    | bare mark_ok => rcases mark_ok with rfl | rfl <;> rfl
    | signed mark_ok => rcases mark_ok with rfl | rfl <;> rfl
  rw [List.all_append, List.all_append, digits_all, fraction_all, exponent_all, Bool.true_and]

/-- A text with the parts of a number, blanks around them aside, spells the number of its token. -/
theorem Parts.exists_number {token : Token} {content : String}
    (parts : Parts digits fraction exponent)
    (made : numberToken digits fraction exponent = .ok token)
    (trimmed : Text.trimChars content.toList = digits ++ fraction ++ exponent) :
    ∃ number : Number, Grammar.Literal token number.toValue ∧
      Value.ofText content = number.toValue := by
  obtain ⟨first, others, chars_eq, isDigit⟩ := parts.exists_eq_cons
  have trim_eq : Text.trim content = String.ofList (digits ++ fraction ++ exponent) := by
    rw [Text.trim, trimmed]
  have numeric : Numeric (String.ofList (digits ++ fraction ++ exponent)).toList := by
    rw [String.toList_ofList]
    exact parts.numeric
  have word_eq : Decimal.readWord? (String.ofList (first :: others)) = _ :=
    Decimal.readWord?_unsigned isDigit
  have float_eq := Decimal.readFloat?_of_numeric numeric
  rw [← chars_eq, parts.all_isDigit] at word_eq
  rw [String.toList_ofList, chars_eq, Decimal.splitSign_unsigned isDigit, ← chars_eq] at float_eq
  rw [numberToken] at made
  rw [Value.ofText, trim_eq, word_eq, Decimal.spellsNumber_iff.mpr numeric, float_eq]
  split at made
  case isTrue plain =>
    obtain ⟨no_fraction, no_exponent⟩ := (Bool.and_eq_true _ _).mp plain
    rw [List.isEmpty_iff] at no_fraction no_exponent
    rw [if_pos plain, no_fraction, no_exponent, List.append_nil, List.append_nil]
    cases word_read : word? (Text.numeral digits) with
    | none =>
        rw [wholeNumber, word_read] at made
        cases made
    | some number =>
        rw [wholeNumber, word_read] at made
        cases made
        exact ⟨.int number, .int number, rfl⟩
  case isFalse parted =>
    rw [if_neg parted]
    cases decimal_read : Decimal.read? (digits ++ fraction ++ exponent) with
    | none =>
        rw [decimal_read] at made
        cases made
    | some decimal =>
        rw [decimal_read] at made
        cases made
        exact ⟨.float decimal.toFloat, .float _, rfl⟩

/-- A source of one number has the parts of the number between blanks. -/
theorem exists_parts_of_tokenize {source : String} {lexeme last : Lexeme}
    (tokenized : tokenize source = .ok [lexeme, last]) (isNumber : kind lexeme.token = .number) :
    ∃ digits fraction exponent, Parts digits fraction exponent ∧
      numberToken digits fraction exponent = .ok lexeme.token ∧
      Text.trimChars source.toList = digits ++ fraction ++ exponent := by
  have scanned : Scanned 0 false source.toList [lexeme, last] := scanned_of_scan tokenized
  generalize source.toList = chars at scanned
  cases scanned with
  | @token _ _ front text back first value _ front_blank visible read others =>
      cases others with
      | token _ _ _ none_left => cases none_left
      | finish back_blank =>
          have readBy := token_readBy read
          rw [isNumber] at readBy
          cases readBy with
          | number isDigit read =>
              obtain ⟨digits, fraction, exponent, parts, whole, made⟩ := exists_parts isDigit read
              refine ⟨digits, fraction, exponent, parts, made, ?_⟩
              obtain ⟨_, _, chars_eq, -⟩ := parts.exists_eq_cons
              have nonempty : digits ++ fraction ++ exponent ≠ [] := by
                rw [chars_eq]
                exact List.cons_ne_nil _ _
              have whole_eq :
                  first :: (text ++ back) = digits ++ fraction ++ exponent ++ back := by
                simp only [whole, List.append_assoc]
              rw [whole_eq]
              exact Text.trimChars_enclosed front_blank back_blank
                (fun char mem => (parts.numeric.isNumeric char mem).visible) nonempty

end

end Lexer

/-- A source of one number has the value of its token, and so has a reference to a text with the
characters of the source. -/
theorem evaluate_numeral {source : String} {lexeme last : Lexeme}
    (tokenized : tokenize source = .ok [lexeme, last])
    (isNumber : Lexer.kind lexeme.token = .number) :
    ∃ (tree : Expr) (number : Number), Grammar.Literal lexeme.token number.toValue ∧
      Expr.read source = .ok tree ∧
      (∀ results, tree.evaluate results = .ok number.toValue) ∧
      ∀ (results : Namespace) (key : String), results.get? key = some (.text source) →
        (Expr.reference ⟨key, []⟩).evaluate results = .ok number.toValue := by
  obtain ⟨digits, fraction, exponent, parts, made, trimmed⟩ :=
    Lexer.exists_parts_of_tokenize tokenized isNumber
  obtain ⟨number, spelled, text_eq⟩ := parts.exists_number made trimmed
  obtain ⟨body, ended, lexemes_eq, isFinish, -⟩ := tokenize_ends tokenized
  obtain ⟨rfl, rfl⟩ : body = [lexeme] ∧ ended = last := by
    have parted : [lexeme] ++ [last] = body ++ [ended] := lexemes_eq
    obtain ⟨front_eq, last_eq⟩ := List.append_inj' parted rfl
    exact ⟨front_eq.symm, (List.singleton_inj.mp last_eq).symm⟩
  have tokens_eq : [lexeme, ended].map Lexeme.token = [lexeme.token] ++ [.finish] := by
    rw [← isFinish]
    rfl
  have derives : Grammar.Derives Builtin.takes .expression [lexeme.token]
      (.literal number.toValue) 0 := Grammar.derives_literal spelled .expression
  refine ⟨_, number, spelled, Grammar.read_of_derives tokenized tokens_eq derives (Nat.zero_le _),
    fun _ => rfl, fun results key stored => ?_⟩
  rw [Expr.evaluate, Reference.resolve, stored]
  exact congrArg Except.ok text_eq

theorem evaluate_numeral_exponent :
    tokenize "\t2.50e+01 " =
        .ok [⟨.float 25, 1, "2.50e+01".toList⟩, ⟨.finish, 10, []⟩] ∧
      ∃ (tree : Expr) (number : Number),
        Grammar.Literal (.float 25) number.toValue ∧ Expr.read "\t2.50e+01 " = .ok tree ∧
        (∀ results, tree.evaluate results = .ok number.toValue) ∧
        (Expr.reference ⟨"area", []⟩).evaluate
          (Mapping.empty.insert "area" (.text "\t2.50e+01 ")) = .ok number.toValue := by
  have tokenized : tokenize "\t2.50e+01 " =
      .ok [⟨.float 25, 1, "2.50e+01".toList⟩, ⟨.finish, 10, []⟩] := by
    with_unfolding_all rfl
  obtain ⟨tree, number, spelled, read, evaluated, stored⟩ := evaluate_numeral tokenized rfl
  exact ⟨tokenized, tree, number, spelled, read, evaluated,
    stored _ _ (Mapping.get?_insert_self _ _ _)⟩

end Assay
