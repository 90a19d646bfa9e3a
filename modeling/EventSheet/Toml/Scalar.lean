import EventSheet.Decimal.Binary64
import EventSheet.Json.Basic
import EventSheet.Text.Hexadecimal

/-!
# Scalars of TOML

The texts, numbers, dates and truth values of a TOML document, each read from the front of a text. A
reader gives what it read and the characters left, or none when the text does not begin with what it
reads. Dates become objects with the one key `dateKey`, as a reader of records sees them.
-/

namespace EventSheet.Toml

/-- Reads something from the front of a text. -/
abbrev Reads (α : Type) := List Char → Option (α × List Char)

/-! ### Blanks and comments -/

/-- The blanks within a line. -/
def isSpace (c : Char) : Bool := c == ' ' || c == '\t'

/-- The characters that texts and comments may hold. -/
def isTextChar (c : Char) : Bool := c == '\t' || (decide (0x20 ≤ c.toNat) && c != '\x7f')

/-- What follows the blanks at the front of a text. -/
def skipSpaces (cs : List Char) : List Char := cs.dropWhile isSpace

/-- What follows the end of line at the front of a text. -/
def newline? : List Char → Option (List Char)
  | '\n' :: cs => some cs
  | '\r' :: '\n' :: cs => some cs
  | _ => none

/-- What follows the blanks, ends of lines and comments at the front of a text. -/
def skipLines (inComment : Bool) : List Char → List Char
  | [] => []
  | '\n' :: cs => skipLines false cs
  | '\r' :: '\n' :: cs => skipLines false cs
  | c :: cs =>
    if inComment then
      if isTextChar c then skipLines true cs else c :: cs
    else if isSpace c then skipLines false cs
    else if c = '#' then skipLines true cs
    else c :: cs

/-! ### Texts -/

/-- The character that a letter after a backslash stands for. -/
def unescape? : Char → Option Char
  | 'b' => some '\x08'
  | 'f' => some '\x0c'
  | 'n' => some '\n'
  | 'r' => some '\r'
  | 't' => some '\t'
  | '"' => some '"'
  | '\\' => some '\\'
  | _ => none

/-- The character of a code point written in hexadecimal digits. -/
def charOfDigits? (digits : List Char) : Option Char :=
  (Text.hexNumber? digits).bind fun n => if n.isValidChar then some (Char.ofNat n) else none

/-- Puts a character in front of what was read. -/
def prepend (c : Char) (r : Option (List Char × List Char)) : Option (List Char × List Char) :=
  r.map fun p => (c :: p.1, p.2)

/-- What follows an opening quote on one line, up to the closing quote. -/
def basicBody : Reads (List Char)
  | [] => none
  | '"' :: rest => some ([], rest)
  | '\\' :: 'u' :: a :: b :: c :: d :: rest =>
    (charOfDigits? [a, b, c, d]).bind fun x => prepend x (basicBody rest)
  | '\\' :: 'U' :: a :: b :: c :: d :: e :: f :: g :: h :: rest =>
    (charOfDigits? [a, b, c, d, e, f, g, h]).bind fun x => prepend x (basicBody rest)
  | '\\' :: c :: rest => (unescape? c).bind fun x => prepend x (basicBody rest)
  | c :: rest => if isTextChar c && c != '\\' then prepend c (basicBody rest) else none

/-- Whether a text begins with blanks and an end of line. -/
def endsLine (cs : List Char) : Bool := (newline? (skipSpaces cs)).isSome

/-- What follows three opening quotes, up to three closing ones; up to two more quotes may stand
before them. A backslash at the end of a line drops all blanks and ends of lines up to the next
character: `trimming` says that they are being dropped. -/
def multilineBody (trimming : Bool) : Reads (List Char)
  | [] => none
  | '"' :: '"' :: '"' :: '"' :: '"' :: rest => some (['"', '"'], rest)
  | '"' :: '"' :: '"' :: '"' :: rest => some (['"'], rest)
  | '"' :: '"' :: '"' :: rest => some ([], rest)
  | '\\' :: 'u' :: a :: b :: c :: d :: rest =>
    (charOfDigits? [a, b, c, d]).bind fun x => prepend x (multilineBody false rest)
  | '\\' :: 'U' :: a :: b :: c :: d :: e :: f :: g :: h :: rest =>
    (charOfDigits? [a, b, c, d, e, f, g, h]).bind fun x => prepend x (multilineBody false rest)
  | '\\' :: c :: rest =>
    if endsLine (c :: rest) then multilineBody true (c :: rest)
    else (unescape? c).bind fun x => prepend x (multilineBody false rest)
  | '\r' :: '\n' :: rest =>
    if trimming then multilineBody true rest else prepend '\n' (multilineBody false rest)
  | '\n' :: rest =>
    if trimming then multilineBody true rest else prepend '\n' (multilineBody false rest)
  | c :: rest =>
    if trimming && isSpace c then multilineBody true rest
    else if isTextChar c && c != '\\' then prepend c (multilineBody false rest)
    else none

/-- What follows an opening apostrophe on one line, up to the closing one. -/
def literalBody : Reads (List Char)
  | [] => none
  | '\'' :: rest => some ([], rest)
  | c :: rest => if isTextChar c then prepend c (literalBody rest) else none

/-- What follows three opening apostrophes, up to three closing ones; up to two more may stand
before them. -/
def multilineLiteralBody : Reads (List Char)
  | [] => none
  | '\'' :: '\'' :: '\'' :: '\'' :: '\'' :: rest => some (['\'', '\''], rest)
  | '\'' :: '\'' :: '\'' :: '\'' :: rest => some (['\''], rest)
  | '\'' :: '\'' :: '\'' :: rest => some ([], rest)
  | '\r' :: '\n' :: rest => prepend '\n' (multilineLiteralBody rest)
  | c :: rest =>
    if isTextChar c || c = '\n' then prepend c (multilineLiteralBody rest) else none

/-- Drops the end of line that may follow an opening delimiter. -/
def dropNewline (cs : List Char) : List Char := (newline? cs).getD cs

/-- A text on one line. -/
def lineText : Reads (List Char)
  | '"' :: cs => basicBody cs
  | '\'' :: cs => literalBody cs
  | _ => none

/-- A text in any of its four forms. -/
def text : Reads (List Char)
  | '"' :: '"' :: '"' :: cs => multilineBody false (dropNewline cs)
  | '\'' :: '\'' :: '\'' :: cs => multilineLiteralBody (dropNewline cs)
  | cs => lineText cs

/-! ### Numbers -/

/-- Digits of a class with single underscores between them, after a first digit. -/
def digitTail (isDigit : Char → Bool) : List Char → List Char × List Char
  | '_' :: c :: cs =>
    if isDigit c then
      let p := digitTail isDigit cs
      (c :: p.1, p.2)
    else ([], '_' :: c :: cs)
  | c :: cs =>
    if isDigit c then
      let p := digitTail isDigit cs
      (c :: p.1, p.2)
    else ([], c :: cs)
  | [] => ([], [])

/-- At least one digit of a class, with single underscores between digits. -/
def digits (isDigit : Char → Bool) : Reads (List Char)
  | c :: cs =>
    if isDigit c then
      let p := digitTail isDigit cs
      some (c :: p.1, p.2)
    else none
  | [] => none

/-- A sign, if there is one: whether it is negative, and the characters left. -/
def sign : List Char → Bool × List Char
  | '-' :: cs => (true, cs)
  | '+' :: cs => (false, cs)
  | cs => (false, cs)

/-- Decimal digits without a superfluous leading zero. -/
def plainDigits : Reads (List Char)
  | '0' :: cs => some (['0'], cs)
  | cs => digits Char.isDigit cs

/-- The fraction of a number, if there is one. -/
def fraction : Reads (List Char)
  | '.' :: cs => digits Char.isDigit cs
  | cs => some ([], cs)

/-- The exponent of a number, if there is one. -/
def exponent : Reads Int
  | c :: cs =>
    if c = 'e' || c = 'E' then
      let s := sign cs
      (digits Char.isDigit s.2).map fun p =>
        let value : Int := Decimal.digitsValue p.1
        (if s.1 then -value else value, p.2)
    else some (0, c :: cs)
  | [] => some (0, [])

/-- Whether digits with a fraction and an exponent stand for less than rounds to infinity. The exact
comparison is made only where the number of digits does not decide. -/
def isFinite (whole fraction : List Char) (exponent : Int) : Bool :=
  let significant := (whole ++ fraction).dropWhile (· == '0')
  let shift : Int := exponent - fraction.length
  let magnitude : Int := significant.length + shift
  significant.isEmpty || decide (magnitude ≤ 308) ||
    (decide (magnitude ≤ 309) &&
      decide (Decimal.quotientBits (Decimal.digitsValue significant * Nat.pow 10 shift.toNat)
        (Nat.pow 10 (-shift).toNat) ≠ Decimal.infinityBits))

/-- A number with a fraction or an exponent. One that rounds to positive infinity is refused. -/
def float : Reads Json := fun cs => do
  let (negative, unsigned) := sign cs
  let (whole, rest) ← plainDigits unsigned
  let (part, afterPart) ← fraction rest
  let (power, left) ← exponent afterPart
  if left.length = rest.length then none
  else if negative || isFinite whole part power then
    return (.number (String.ofList (cs.take (cs.length - left.length))), left)
  else none

/-- Infinity and the undefined number, with a sign or without. -/
def specialFloat : Reads Json := fun cs =>
  match (sign cs).2 with
  | 'i' :: 'n' :: 'f' :: rest => some (.number "inf", rest)
  | 'n' :: 'a' :: 'n' :: rest => some (.number "nan", rest)
  | _ => none

/-- The greatest integer. -/
def maxInteger : Nat := Nat.pow 2 63 - 1

/-- An integer in the given base, of digits of a class. -/
def basedInteger (base : Nat) (isDigit : Char → Bool) : Reads Json := fun cs => do
  let (ds, rest) ← digits isDigit cs
  let value := ds.foldl (fun n c => base * n + (Text.hexValue? c).getD 0) 0
  if value ≤ maxInteger then return (.nat value, rest) else none

/-- A decimal integer. -/
def decimalInteger : Reads Json := fun cs => do
  let (negative, unsigned) := sign cs
  let (ds, rest) ← plainDigits unsigned
  let value := Decimal.digitsValue ds
  if value ≤ maxInteger || (negative && value = maxInteger + 1) then
    return (.number (String.ofList (if negative then '-' :: ds else ds)), rest)
  else none

/-- An integer, in any base. -/
def integer : Reads Json
  | '0' :: 'x' :: cs => basedInteger 16 (fun c => (Text.hexValue? c).isSome) cs
  | '0' :: 'o' :: cs => basedInteger 8 (fun c => decide ('0' ≤ c) && decide (c ≤ '7')) cs
  | '0' :: 'b' :: cs => basedInteger 2 (fun c => c == '0' || c == '1') cs
  | cs => decimalInteger cs

/-! ### Dates and times -/

/-- A number of two decimal digits within bounds. -/
def twoDigits? (low high : Nat) (a b : Char) : Option Nat :=
  if a.isDigit && b.isDigit then
    let n := Decimal.digitsValue [a, b]
    if low ≤ n ∧ n ≤ high then some n else none
  else none

/-- The number of days of a month. -/
def daysOfMonth (year month : Nat) : Nat :=
  if month = 2 then
    if year % 4 = 0 ∧ (year % 100 ≠ 0 ∨ year % 400 = 0) then 29 else 28
  else if month = 4 ∨ month = 6 ∨ month = 9 ∨ month = 11 then 30
  else 31

/-- A date: year, month and day. -/
def date : Reads (List Char)
  | y₁ :: y₂ :: y₃ :: y₄ :: '-' :: m₁ :: m₂ :: '-' :: d₁ :: d₂ :: rest =>
    if [y₁, y₂, y₃, y₄].all Char.isDigit then do
      let month ← twoDigits? 1 12 m₁ m₂
      let _ ← twoDigits? 1 (daysOfMonth (Decimal.digitsValue [y₁, y₂, y₃, y₄]) month) d₁ d₂
      return ([y₁, y₂, y₃, y₄, '-', m₁, m₂, '-', d₁, d₂], rest)
    else none
  | _ => none

/-- The fraction of a second, if there is one, cut to nine digits and without closing zeros. -/
def secondFraction : List Char → List Char × List Char
  | '.' :: c :: rest =>
    if c.isDigit then
      let ds := (c :: rest.takeWhile Char.isDigit).take 9
      let kept := (ds.reverse.dropWhile (· == '0')).reverse
      (if kept.isEmpty then [] else '.' :: kept, rest.dropWhile Char.isDigit)
    else ([], '.' :: c :: rest)
  | cs => ([], cs)

/-- A time of day: hours, minutes and seconds. -/
def time : Reads (List Char)
  | h₁ :: h₂ :: ':' :: m₁ :: m₂ :: ':' :: s₁ :: s₂ :: rest => do
    let _ ← twoDigits? 0 23 h₁ h₂
    let _ ← twoDigits? 0 59 m₁ m₂
    let _ ← twoDigits? 0 60 s₁ s₂
    let p := secondFraction rest
    return (h₁ :: h₂ :: ':' :: m₁ :: m₂ :: ':' :: s₁ :: s₂ :: p.1, p.2)
  | _ => none

/-- The distance from universal time, if there is one. No distance at all is written with a plus. -/
def timeOffset : List Char → List Char × List Char
  | 'Z' :: rest => (['Z'], rest)
  | 'z' :: rest => (['Z'], rest)
  | s :: h₁ :: h₂ :: ':' :: m₁ :: m₂ :: rest =>
    match twoDigits? 0 23 h₁ h₂, twoDigits? 0 59 m₁ m₂ with
    | some hours, some minutes =>
      if s = '+' || (s = '-' && hours = 0 && minutes = 0) then
        (['+', h₁, h₂, ':', m₁, m₂], rest)
      else if s = '-' then (['-', h₁, h₂, ':', m₁, m₂], rest)
      else ([], s :: h₁ :: h₂ :: ':' :: m₁ :: m₂ :: rest)
    | _, _ => ([], s :: h₁ :: h₂ :: ':' :: m₁ :: m₂ :: rest)
  | cs => ([], cs)

/-- A date that may be followed by a time, or a time alone. -/
def dateTimeText : Reads (List Char) := fun cs =>
  match date cs with
  | some (day, c :: rest) =>
    if c = 'T' || c = 't' || c = ' ' then
      match time rest with
      | some (clock, rest) =>
        let offset := timeOffset rest
        some (day ++ 'T' :: clock ++ offset.1, offset.2)
      | none => some (day, c :: rest)
    else some (day, c :: rest)
  | some (day, []) => some (day, [])
  | none => time cs

/-- The one key of a date. -/
def dateKey : String := "$__toml_private_datetime"

/-- A date or a time, as the object that a reader of records sees. -/
def dateTime : Reads Json := fun cs =>
  (dateTimeText cs).map fun p => (.object [.mk dateKey (.string (String.ofList p.1))], p.2)

/-! ### All scalars -/

/-- A truth value. -/
def truth : Reads Json
  | 't' :: 'r' :: 'u' :: 'e' :: rest => some (.bool true, rest)
  | 'f' :: 'a' :: 'l' :: 's' :: 'e' :: rest => some (.bool false, rest)
  | _ => none

/-- A text as a value. -/
def textValue : Reads Json := fun cs =>
  (text cs).map fun p => (.string (String.ofList p.1), p.2)

/-- A value that holds no others. -/
def scalar : Reads Json := fun cs =>
  textValue cs <|> truth cs <|> dateTime cs <|> float cs <|> specialFloat cs <|> integer cs

end EventSheet.Toml
