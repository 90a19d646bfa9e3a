import EventSheet.Text.Combining
import EventSheet.Text.Printable

/-!
# Quoted texts

How a text is shown inside a line of output: between double quotes, with every character that would
break the line, end the quotes or stay invisible written as an escape. A character without a short
escape is written as its code point in hexadecimal.
-/

namespace EventSheet.Text

/-- The written form of one character between the quotes. -/
def escape (c : Char) : List Char :=
  if c = '"' then ['\\', '"']
  else if c = '\\' then ['\\', '\\']
  else if c = '\n' then ['\\', 'n']
  else if c = '\r' then ['\\', 'r']
  else if c = '\t' then ['\\', 't']
  else if c = '\x00' then ['\\', '0']
  else if isCombining c || !isPrintable c then
    '\\' :: 'u' :: '\x7b' :: Nat.toDigits 16 c.toNat ++ ['\x7d']
  else [c]

/-- A text between double quotes, escaped. -/
def quoted (text : String) : String :=
  String.ofList ('"' :: text.toList.flatMap escape ++ ['"'])

end EventSheet.Text
