/-!
# Values of text literals

A text literal stands between double quotes, and a backslash takes the character after it along.
Decoding drops the two quotes and then goes through the pieces of what is left, one character or
one backslash with the character after it at a time.
-/

namespace EventSheet

/-- What decoding meets inside a text literal: a character, a backslash with the character after
it, or a backslash with nothing after it. -/
inductive TextPiece
  | plain (c : Char)
  | escaped (c : Char)
  | lone
  deriving DecidableEq

/-- The pieces that the inside of a text literal is made of. -/
def textPieces : List Char → List TextPiece
  | [] => []
  | ['\\'] => [.lone]
  | '\\' :: c :: cs => .escaped c :: textPieces cs
  | c :: cs => .plain c :: textPieces cs

/-- What a piece stands for. A backslash before a quote or a backslash stands for that character;
before any other it stands for itself. -/
def TextPiece.value : TextPiece → List Char
  | plain c => [c]
  | escaped c => if c = '"' ∨ c = '\\' then [c] else ['\\', c]
  | lone => ['\\']

/-- A text literal without the quotes at its ends, as far as they are there. -/
def stripQuotes (cs : List Char) : List Char :=
  let inner := if cs.head? = some '"' then cs.drop 1 else cs
  if inner.getLast? = some '"' then inner.dropLast else inner

/-- The value of a text literal. -/
def decodeText (literal : String) : String :=
  String.ofList ((textPieces (stripQuotes literal.toList)).flatMap TextPiece.value)

end EventSheet
