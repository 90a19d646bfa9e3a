import EventSheet.Text.Span

/-!
# Tokens of an expression

A `Token` keeps the text it was cut from together with its span, so that names and literals are
built from tokens alone. The kinds are those of the expression language; a character that the
language does not know makes a token of its own, and a last token of kind `eof` stands at the end
of every text.
-/

namespace EventSheet

/-- What a token is. -/
inductive TokenKind
  /-- Digits with an optional fraction. -/
  | number
  /-- A text between double quotes, the quotes included. -/
  | string
  /-- A text without its closing quote, which runs to the end. -/
  | unterminatedString
  /-- The name of an object, a variable, a behavior or a function. -/
  | ident
  | plus
  | minus
  | star
  | slash
  | caret
  | openParen
  | closeParen
  | openBracket
  | closeBracket
  | comma
  | dot
  /-- The sign between a behavior and its function. -/
  | colonColon
  /-- A character that starts no other token. -/
  | unknown
  /-- The end of the text. -/
  | eof
  deriving DecidableEq

namespace TokenKind

/-- Whether the kind is one of the operators. -/
def isOperator : TokenKind → Bool
  | plus | minus | star | slash | caret => true
  | _ => false

/-- How a token of the kind is called in a message. -/
def description : TokenKind → String
  | number => "a number"
  | string => "a text"
  | unterminatedString => "an unterminated text"
  | ident => "a name"
  | plus => "`+`"
  | minus => "`-`"
  | star => "`*`"
  | slash => "`/`"
  | caret => "`^`"
  | openParen => "`(`"
  | closeParen => "`)`"
  | openBracket => "`[`"
  | closeBracket => "`]`"
  | comma => "`,`"
  | dot => "`.`"
  | colonColon => "`::`"
  | unknown => "an unexpected character"
  | eof => "the end of the expression"

/-- The name of the kind in a listing of tokens. -/
def label : TokenKind → String
  | number => "Number"
  | string => "String"
  | unterminatedString => "UnterminatedString"
  | ident => "Ident"
  | plus => "Plus"
  | minus => "Minus"
  | star => "Star"
  | slash => "Slash"
  | caret => "Caret"
  | openParen => "LParen"
  | closeParen => "RParen"
  | openBracket => "LBracket"
  | closeBracket => "RBracket"
  | comma => "Comma"
  | dot => "Dot"
  | colonColon => "ColonColon"
  | unknown => "Unknown"
  | eof => "Eof"

end TokenKind

/-- A piece of an expression: its kind, its text and where it stands. -/
structure Token where
  kind : TokenKind
  text : String
  span : Span
  deriving DecidableEq

/-- The token that stands at the end of a text of `length` bytes. -/
def Token.atEnd (length : Nat) : Token := ⟨.eof, "", Span.point length⟩

end EventSheet
