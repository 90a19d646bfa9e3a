import EventSheet.Json.Basic

/-!
# Writing JSON

The compact form of a JSON value: no blanks, every text escaped so that the whole stays on one line.
Only quotes, backslashes and control characters are escaped; all other characters stand for
themselves.
-/

namespace EventSheet.Json

/-- A hexadecimal digit in lower case. -/
def hexDigit (n : Nat) : Char := (Nat.toDigits 16 (n % 16)).headD '0'

/-- The written form of a character inside a text. -/
def escape (c : Char) : List Char :=
  if c = '"' then ['\\', '"']
  else if c = '\\' then ['\\', '\\']
  else if c = '\n' then ['\\', 'n']
  else if c = '\r' then ['\\', 'r']
  else if c = '\t' then ['\\', 't']
  else if c = '\x08' then ['\\', 'b']
  else if c = '\x0c' then ['\\', 'f']
  else if c.toNat < 0x20 then
    ['\\', 'u', '0', '0', hexDigit (c.toNat / 16), hexDigit c.toNat]
  else [c]

/-- The written form of a text. -/
def quote (s : String) : List Char := '"' :: s.toList.flatMap escape ++ ['"']

mutual

/-- The compact form of a value. -/
def write : Json → List Char
  | null => "null".toList
  | bool true => "true".toList
  | bool false => "false".toList
  | number literal => literal.toList
  | string s => quote s
  | array items => '[' :: writeItems items ++ [']']
  | object members => '\x7b' :: writeMembers members ++ ['\x7d']

/-- The items of an array between commas. -/
def writeItems : List Json → List Char
  | [] => []
  | [item] => write item
  | item :: rest => write item ++ ',' :: writeItems rest

/-- The members of an object between commas. -/
def writeMembers : List Member → List Char
  | [] => []
  | [.mk key value] => quote key ++ ':' :: write value
  | .mk key value :: rest => quote key ++ ':' :: (write value ++ ',' :: writeMembers rest)

end

/-- The compact text of a value. -/
def compact (j : Json) : String := String.ofList (write j)

end EventSheet.Json
