import Assay.Decimal
import Assay.Expr.Fault

/-!
# Reading tokens

A source is read from left to right into lexemes, the last of which is its end. Each token takes
the longest text it can; blanks separate tokens and mean nothing else. After a point a number has
no fraction and no exponent, so that the segments of a reference stay apart.
-/

namespace Assay.Lexer

/-- Something read from the front of a source, with what is left. -/
structure Reading (α : Type) where
  /-- What was read. -/
  value : α
  /-- The characters after it. -/
  rest : List Char

/-- The characters of a fraction: a point and at least one digit, or nothing. -/
def fraction : List Char → Reading (List Char)
  | '.' :: digit :: rest =>
    if Text.isDigit digit then
      ⟨'.' :: digit :: rest.takeWhile Text.isDigit, rest.dropWhile Text.isDigit⟩
    else ⟨[], '.' :: digit :: rest⟩
  | chars => ⟨[], chars⟩

/-- The characters of an exponent's digits after its mark and sign, or nothing at all. -/
def exponentDigits (front chars : List Char) : Reading (List Char) :=
  match chars with
  | digit :: rest =>
    if Text.isDigit digit then
      ⟨front ++ digit :: rest.takeWhile Text.isDigit, rest.dropWhile Text.isDigit⟩
    else ⟨[], front ++ chars⟩
  | [] => ⟨[], front⟩

/-- The characters of an exponent: a mark, an optional sign and at least one digit, or nothing. -/
def exponent : List Char → Reading (List Char)
  | [] => ⟨[], []⟩
  | mark :: rest =>
    if mark = 'e' ∨ mark = 'E' then
      match rest with
      | sign :: digits =>
        if sign = '+' ∨ sign = '-' then exponentDigits [mark, sign] digits
        else exponentDigits [mark] rest
      | [] => ⟨[], [mark]⟩
    else ⟨[], mark :: rest⟩

/-- What makes a character start no token, with the text to show. -/
abbrev Obstacle := Found × List Char

/-- The word of a whole number's digits. -/
def wholeNumber (digits : List Char) : Except Obstacle Token :=
  match word? (Text.numeral digits) with
  | some number => .ok (.int number)
  | none => .error (.badNumber, digits)

/-- Reads a number from its first digit on. -/
def number (afterDot : Bool) (chars : List Char) : Except Obstacle (Reading Token) :=
  let digits := chars.takeWhile Text.isDigit
  let rest := chars.dropWhile Text.isDigit
  if afterDot then (wholeNumber digits).map fun token => ⟨token, rest⟩
  else
    let fractional := fraction rest
    let scaled := exponent fractional.rest
    if fractional.value.isEmpty && scaled.value.isEmpty then
      (wholeNumber digits).map fun token => ⟨token, rest⟩
    else
      let all := digits ++ fractional.value ++ scaled.value
      match Decimal.read? all with
      | some decimal => .ok ⟨.float decimal.toFloat, scaled.rest⟩
      | none => .error (.badNumber, all)

/-- What a character stands for after a backslash. -/
def unescape : Char → Char
  | 'n' => '\n'
  | 't' => '\t'
  | char => char

/-- Reads the content of a text up to its closing quote, which must come. -/
def quoted : List Char → Option (Reading (List Char))
  | [] => none
  | '"' :: rest => some ⟨[], rest⟩
  | ['\\'] => none
  | '\\' :: escaped :: rest =>
    (quoted rest).map fun reading => ⟨unescape escaped :: reading.value, reading.rest⟩
  | char :: rest => (quoted rest).map fun reading => ⟨char :: reading.value, reading.rest⟩

/-- The keyword or the name that a word is. -/
def keyword (word : String) : Token :=
  if word == "and" then .and
  else if word == "or" then .or
  else if word == "not" then .not
  else if word == "true" || word == "True" then .truth true
  else if word == "false" || word == "False" then .truth false
  else .name word

/-- Reads a sign of one or two characters. -/
def sign : List Char → Except Obstacle (Reading Token)
  | '/' :: '/' :: rest => .ok ⟨.slashes, rest⟩
  | '=' :: '=' :: rest => .ok ⟨.equal, rest⟩
  | '!' :: '=' :: rest => .ok ⟨.notEqual, rest⟩
  | '<' :: '=' :: rest => .ok ⟨.atMost, rest⟩
  | '>' :: '=' :: rest => .ok ⟨.atLeast, rest⟩
  | '&' :: '&' :: _ => .error (.logicalSymbol, ['&', '&'])
  | '|' :: '|' :: _ => .error (.logicalSymbol, ['|', '|'])
  | '=' :: _ => .error (.singleEquals, ['='])
  | '+' :: rest => .ok ⟨.plus, rest⟩
  | '-' :: rest => .ok ⟨.minus, rest⟩
  | '*' :: rest => .ok ⟨.star, rest⟩
  | '/' :: rest => .ok ⟨.slash, rest⟩
  | '%' :: rest => .ok ⟨.percent, rest⟩
  | '^' :: rest => .ok ⟨.caret, rest⟩
  | '<' :: rest => .ok ⟨.less, rest⟩
  | '>' :: rest => .ok ⟨.greater, rest⟩
  | '(' :: rest => .ok ⟨.openParen, rest⟩
  | ')' :: rest => .ok ⟨.closeParen, rest⟩
  | '[' :: rest => .ok ⟨.openBracket, rest⟩
  | ']' :: rest => .ok ⟨.closeBracket, rest⟩
  | ',' :: rest => .ok ⟨.comma, rest⟩
  | '.' :: rest => .ok ⟨.dot, rest⟩
  | char :: _ => .error (.badChar, [char])
  | [] => .ok ⟨.finish, []⟩

/-- Reads the token at the front of a source that starts with the given character. -/
def token (afterDot : Bool) (first : Char) (rest : List Char) :
    Except Obstacle (Reading Token) :=
  if Text.isDigit first then number afterDot (first :: rest)
  else if first = '"' then
    match quoted rest with
    | some reading => .ok ⟨.text (String.ofList reading.value), reading.rest⟩
    | none => .error (.unterminatedText, first :: rest)
  else if Text.isWordStart first then
    .ok ⟨keyword (String.ofList ((first :: rest).takeWhile Text.isWordChar)),
      (first :: rest).dropWhile Text.isWordChar⟩
  else sign (first :: rest)

theorem quoted_length {chars : List Char} {reading : Reading (List Char)}
    (read : quoted chars = some reading) : reading.rest.length < chars.length := by
  fun_induction quoted chars generalizing reading with
  | case1 => simp at read
  | case2 rest =>
    cases read
    simp
  | case3 => simp at read
  | case4 escaped rest ih =>
    obtain ⟨inner, inner_eq, rfl⟩ := Option.map_eq_some_iff.mp read
    have := ih inner_eq
    simp only [List.length_cons]
    omega
  | case5 char rest _ _ _ ih =>
    obtain ⟨inner, inner_eq, rfl⟩ := Option.map_eq_some_iff.mp read
    have := ih inner_eq
    simp only [List.length_cons]
    omega

theorem fraction_length (chars : List Char) : (fraction chars).rest.length ≤ chars.length := by
  fun_cases fraction chars with
  | case1 digit rest isDigit =>
    have := (List.dropWhile_sublist Text.isDigit (l := rest)).length_le
    simp only [List.length_cons]
    omega
  | case2 => simp
  | case3 => simp

theorem exponentDigits_length (front chars : List Char) :
    (exponentDigits front chars).rest.length ≤ (front ++ chars).length := by
  fun_cases exponentDigits front chars with
  | case1 digit rest isDigit =>
    have := (List.dropWhile_sublist Text.isDigit (l := rest)).length_le
    simp only [List.length_append, List.length_cons]
    omega
  | case2 => simp
  | case3 => simp

theorem exponent_length (chars : List Char) : (exponent chars).rest.length ≤ chars.length := by
  fun_cases exponent chars with
  | case1 => simp
  | case2 mark isMark sign digits isSign =>
    simpa using exponentDigits_length [mark, sign] digits
  | case3 mark isMark sign digits noSign =>
    simpa using exponentDigits_length [mark] (sign :: digits)
  | case4 => simp
  | case5 => simp

theorem number_length {afterDot : Bool} {first : Char} {rest : List Char}
    {reading : Reading Token} (isDigit : Text.isDigit first = true)
    (read : number afterDot (first :: rest) = .ok reading) :
    reading.rest.length < (first :: rest).length := by
  have dropped := (List.dropWhile_sublist Text.isDigit (l := rest)).length_le
  have whole (digits : List Char)
      (ok : (wholeNumber digits).map
        (fun token => (⟨token, rest.dropWhile Text.isDigit⟩ : Reading Token)) = .ok reading) :
      reading.rest.length < (first :: rest).length := by
    cases made : wholeNumber digits with
    | error obstacle => simp [made, Except.map] at ok
    | ok token =>
      simp only [made, Except.map, Except.ok.injEq] at ok
      subst ok
      simp only [List.length_cons]
      omega
  simp only [number, List.takeWhile_cons, isDigit, List.dropWhile_cons, ↓reduceIte] at read
  split at read
  · exact whole _ read
  · split at read
    · exact whole _ read
    · split at read
      · simp only [Except.ok.injEq] at read
        subst read
        have scaled := exponent_length (fraction (rest.dropWhile Text.isDigit)).rest
        have fractional := fraction_length (rest.dropWhile Text.isDigit)
        simp only [List.length_cons]
        omega
      · simp at read

theorem sign_length {first : Char} {rest : List Char} {reading : Reading Token}
    (read : sign (first :: rest) = .ok reading) :
    reading.rest.length < (first :: rest).length := by
  unfold sign at read
  split at read <;> simp_all
  all_goals
    subst read
    simp only []
    omega

/-- A token takes at least one character. -/
theorem token_length {afterDot : Bool} {first : Char} {rest : List Char}
    {reading : Reading Token} (read : token afterDot first rest = .ok reading) :
    reading.rest.length < (first :: rest).length := by
  unfold token at read
  split at read
  · rename_i isDigit
    exact number_length isDigit read
  · split at read
    · split at read
      · rename_i quotation quotation_eq
        simp only [Except.ok.injEq] at read
        subst read
        have := quoted_length quotation_eq
        simp only [List.length_cons]
        omega
      · simp at read
    · split at read
      · rename_i isStart
        simp only [Except.ok.injEq] at read
        subst read
        have isWord : Text.isWordChar first = true := by
          simp only [Text.isWordStart, Bool.and_eq_true] at isStart
          exact isStart.1
        have := (List.dropWhile_sublist Text.isWordChar (l := rest)).length_le
        simp only [List.dropWhile_cons, isWord, ↓reduceIte, List.length_cons]
        omega
      · exact sign_length read

/-- The fault of an obstacle at a position. -/
def obstacleFault (position : Nat) (obstacle : Obstacle) : SyntaxFault :=
  { position, expected := .token, found := obstacle.1, text := obstacle.2
    atStart := false, call := none }

/-- Reads the lexemes of a source whose first byte stands at a position. -/
def scan (position : Nat) (afterDot : Bool) :
    List Char → Except SyntaxFault (List Lexeme)
  | [] => .ok [⟨.finish, position, []⟩]
  | first :: rest =>
    if Text.isBlank first then scan (position + first.utf8Size) afterDot rest
    else
      match _read : token afterDot first rest with
      | .error obstacle => .error (obstacleFault position obstacle)
      | .ok reading =>
        let text := (first :: rest).take ((first :: rest).length - reading.rest.length)
        (scan (position + Text.width text) reading.value.isDot reading.rest).map fun lexemes =>
          ⟨reading.value, position, text⟩ :: lexemes
termination_by chars => chars.length
decreasing_by
  · simp
  · exact token_length _read

end Assay.Lexer

namespace Assay

/-- The lexemes of a source. -/
def tokenize (source : String) : Except SyntaxFault (List Lexeme) :=
  Lexer.scan 0 false source.toList

end Assay
