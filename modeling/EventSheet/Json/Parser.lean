import EventSheet.Json.Basic
import EventSheet.Json.Lexer

/-!
# Reading JSON

Reads values from lexemes. Recursion runs on the levels of arrays and objects that may still be
opened, so that no text nests deeper than `Json.nestingLimit`. A value is read before what follows
it is looked at: `Json.leading?` gives both, `Json.parse?` asks that nothing follows.
-/

namespace EventSheet.Json

/-- The most levels of arrays and objects inside each other. -/
def nestingLimit : Nat := 127

/-- Reads something from the front of a list of lexemes. -/
abbrev LexemeReader (α : Type) := List Lexeme → Option (α × List Lexeme)

/-- Items between commas up to the closing bracket, at most `n` of them. -/
def items (inner : LexemeReader Json) : Nat → LexemeReader (List Json)
  | 0, _ => none
  | n + 1, ts =>
    match inner ts with
    | some (item, .comma :: rest) => (items inner n rest).map fun p => (item :: p.1, p.2)
    | some (item, .closeBracket :: rest) => some ([item], rest)
    | _ => none

/-- Members between commas up to the closing brace, at most `n` of them. -/
def members (inner : LexemeReader Json) : Nat → LexemeReader (List Member)
  | n + 1, .string key :: .colon :: ts =>
    match inner ts with
    | some (value, .comma :: rest) =>
      (members inner n rest).map fun p => (.mk key value :: p.1, p.2)
    | some (value, .closeBrace :: rest) => some ([.mk key value], rest)
    | _ => none
  | _, _ => none

/-- A value that opens at most the given levels of arrays and objects. -/
def value : Nat → LexemeReader Json
  | _, .null :: rest => some (null, rest)
  | _, .bool b :: rest => some (bool b, rest)
  | _, .number literal :: rest => some (number literal, rest)
  | _, .string s :: rest => some (string s, rest)
  | _ + 1, .openBracket :: .closeBracket :: rest => some (array [], rest)
  | _ + 1, .openBrace :: .closeBrace :: rest => some (object [], rest)
  | levels + 1, .openBracket :: rest =>
    (items (fun ts => value levels ts) rest.length rest).map fun p => (array p.1, p.2)
  | levels + 1, .openBrace :: rest =>
    (members (fun ts => value levels ts) rest.length rest).map fun p => (object p.1, p.2)
  | _, _ => none

/-- The value at the front of a text and the lexemes after it. -/
def leading? (text : String) : Option (Json × List Lexeme) :=
  value nestingLimit (lex text.toList)

/-- The value that a text is. -/
def parse? (text : String) : Option Json :=
  match leading? text with
  | some (j, []) => some j
  | _ => none

end EventSheet.Json
