import Assay.Proofs.Expr.Spacing
import Assay.Proofs.Text

/-!
# Quoted texts

Any text can be written between quotes, with a backslash in front of each quote and each backslash
in it. It is read as one token, and what follows is read as a source of its own that stands so many
bytes further on.
-/

namespace Assay

/-- The lexeme so many bytes further on. -/
def Lexeme.moved (distance : Nat) (lexeme : Lexeme) : Lexeme :=
  { lexeme with position := distance + lexeme.position }

/-- The fault so many bytes further on. -/
def SyntaxFault.moved (distance : Nat) (fault : SyntaxFault) : SyntaxFault :=
  { fault with position := distance + fault.position }

namespace Lexer

/-- A character as it is written between quotes. -/
def escape : Char → List Char
  | '"' => ['\\', '"']
  | '\\' => ['\\', '\\']
  | char => [char]

/-- A character is read off what it is written as, whatever follows. -/
theorem quoted_escape (char : Char) (rest : List Char) :
    quoted (escape char ++ rest) =
      (quoted rest).map fun reading => ⟨char :: reading.value, reading.rest⟩ := by
  rw [escape.eq_def]
  split
  · rfl
  · rfl
  · rename_i not_quote not_backslash
    rw [List.singleton_append, quoted]
    · exact not_quote
    · exact fun is_backslash _ => not_backslash is_backslash
    · exact fun _ _ is_backslash _ => not_backslash is_backslash

/-- The first quote without a backslash ends a text. -/
theorem quoted_append (content rest : List Char) :
    quoted (content.flatMap escape ++ '"' :: rest) = some ⟨content, rest⟩ := by
  induction content with
  | nil => rfl
  | cons char content ih =>
      rw [List.flatMap_cons, List.append_assoc, quoted_escape, ih]
      rfl

/-- What is read depends on where it stands in its positions only. -/
theorem scan_moved (distance position : Nat) (afterDot : Bool) (chars : List Char) :
    scan (distance + position) afterDot chars =
      ((scan position afterDot chars).mapError (.moved distance)).map
        (List.map (.moved distance)) := by
  fun_induction scan position afterDot chars with
  | case1 => rw [scan.eq_def]; rfl
  | case2 position afterDot first rest blank ih =>
      rw [← ih, ← Nat.add_assoc, scan.eq_def]
      exact if_pos blank
  | case3 position afterDot first rest visible obstacle failed =>
      rw [scan.eq_def]
      dsimp only
      rw [if_neg visible]
      split
      · rename_i other other_failed
        rw [failed] at other_failed
        cases other_failed
        rfl
      · rename_i succeeded
        rw [failed] at succeeded
        cases succeeded
  | case4 position afterDot first rest visible reading read text ih =>
      obtain ⟨tail, rfl, -⟩ := token_cuts read
      have text_eq : text = first :: tail := take_text tail reading.rest
      rw [scan_token (Bool.eq_false_iff.mpr visible) read, Nat.add_assoc, ← text_eq, ih]
      cases scan (position + Text.width text) reading.value.isDot reading.rest <;> rfl

end Lexer

/-- A text between quotes, with a backslash in front of each quote and each backslash. -/
def quote (content : String) : String :=
  String.ofList ('"' :: (content.toList.flatMap Lexer.escape ++ ['"']))

/-- A quoted text in front of a source is one token, and the source behind it is read, or fails, as
it does on its own, so many bytes further on. -/
theorem tokenize_quote_append (content rest : String) :
    tokenize (quote content ++ rest) =
      ((tokenize rest).mapError (.moved (quote content).utf8ByteSize)).map fun lexemes =>
        ⟨.text content, 0, (quote content).toList⟩ ::
          lexemes.map (.moved (quote content).utf8ByteSize) := by
  have quote_eq : (quote content).toList =
      '"' :: (content.toList.flatMap Lexer.escape ++ ['"']) := String.toList_ofList
  have read : Lexer.token false '"' (content.toList.flatMap Lexer.escape ++ ['"'] ++ rest.toList) =
      .ok ⟨.text content, rest.toList⟩ := by
    rw [Lexer.token, if_neg (by decide), if_pos rfl, List.append_assoc, List.singleton_append,
      Lexer.quoted_append]
    dsimp only
    rw [String.ofList_toList]
  have scanned : tokenize (quote content ++ rest) =
      (Lexer.scan (quote content).utf8ByteSize false rest.toList).map fun lexemes =>
        ⟨.text content, 0, (quote content).toList⟩ :: lexemes := by
    rw [tokenize, String.toList_append, quote_eq, List.cons_append, Lexer.scan_token rfl read,
      ← quote_eq, Text.width_toList, Nat.zero_add]
    rfl
  rw [scanned, ← Nat.add_zero (quote content).utf8ByteSize, Lexer.scan_moved, Nat.add_zero,
    ← tokenize]
  cases tokenize rest <;> rfl

end Assay
