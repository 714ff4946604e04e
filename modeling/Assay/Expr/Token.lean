/-!
# Tokens

The words of the expression language, and lexemes: tokens with their place and text in a source.
-/

namespace Assay

/-- A word of the expression language. -/
inductive Token where
  /-- A whole number. -/
  | int (number : Int64)
  /-- A number with a fraction or an exponent. -/
  | float (number : Float)
  /-- A text in quotes. -/
  | text (content : String)
  /-- A name that is no keyword. -/
  | name (name : String)
  /-- A truth value. -/
  | truth (value : Bool)
  /-- The word `and`. -/
  | and
  /-- The word `or`. -/
  | or
  /-- The word `not`. -/
  | not
  /-- The sign `+`. -/
  | plus
  /-- The sign `-`. -/
  | minus
  /-- The sign `*`. -/
  | star
  /-- The sign `/`. -/
  | slash
  /-- The sign `//`. -/
  | slashes
  /-- The sign `%`. -/
  | percent
  /-- The sign `^`. -/
  | caret
  /-- The sign `==`. -/
  | equal
  /-- The sign `!=`. -/
  | notEqual
  /-- The sign `<`. -/
  | less
  /-- The sign `<=`. -/
  | atMost
  /-- The sign `>`. -/
  | greater
  /-- The sign `>=`. -/
  | atLeast
  /-- The sign `(`. -/
  | openParen
  /-- The sign `)`. -/
  | closeParen
  /-- The sign `[`. -/
  | openBracket
  /-- The sign `]`. -/
  | closeBracket
  /-- The sign `,`. -/
  | comma
  /-- The sign `.`. -/
  | dot
  /-- The end of the source. -/
  | finish

namespace Token

instance : Inhabited Token := ⟨.finish⟩

/-- Whether a token is the end of the source. -/
def isFinish : Token → Bool
  | .finish => true
  | _ => false

/-- Whether a token is a point. -/
def isDot : Token → Bool
  | .dot => true
  | _ => false

/-- Whether a token is a closing parenthesis. -/
def isCloseParen : Token → Bool
  | .closeParen => true
  | _ => false

/-- Whether a token is a closing bracket. -/
def isCloseBracket : Token → Bool
  | .closeBracket => true
  | _ => false

end Token

/-- A token where it stands in a source. -/
structure Lexeme where
  /-- What it means. -/
  token : Token
  /-- The byte at which it starts. -/
  position : Nat
  /-- How it is written. -/
  text : List Char

instance : Inhabited Lexeme := ⟨⟨.finish, 0, []⟩⟩

end Assay
