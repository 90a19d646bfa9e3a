import EventSheet.Decimal.Binary64
import EventSheet.Text.Hexadecimal

/-!
# Lexemes of JSON

Cuts a text into the lexemes of JSON. Where no lexeme can be cut the rest of the text becomes one
lexeme `invalid`, which no value contains: a text is refused as soon as reading gets there, and not
before. Texts have to be well formed: no control characters, no unknown escapes and no half of a
surrogate pair. Numbers have to be within the range of binary64.
-/

namespace EventSheet.Json

/-- A lexeme of JSON. -/
inductive Lexeme
  | openBrace
  | closeBrace
  | openBracket
  | closeBracket
  | colon
  | comma
  | null
  | bool (value : Bool)
  | number (literal : String)
  | string (value : String)
  /-- What is left of a text where no lexeme can be cut. -/
  | invalid
  deriving DecidableEq

/-- The characters between lexemes. -/
def isBlank (c : Char) : Bool := c == ' ' || c == '\t' || c == '\n' || c == '\r'

/-! ### Texts -/

/-- The character that stands for itself or for a control character after a backslash. -/
def unescape? : Char → Option Char
  | '"' => some '"'
  | '\\' => some '\\'
  | '/' => some '/'
  | 'b' => some '\x08'
  | 'f' => some '\x0c'
  | 'n' => some '\n'
  | 'r' => some '\r'
  | 't' => some '\t'
  | _ => none

/-- Whether a code unit is the first of a surrogate pair. -/
def isHighSurrogate (n : Nat) : Bool := decide (0xD800 ≤ n) && decide (n ≤ 0xDBFF)

/-- Whether a code unit is the second of a surrogate pair. -/
def isLowSurrogate (n : Nat) : Bool := decide (0xDC00 ≤ n) && decide (n ≤ 0xDFFF)

/-- The character of a surrogate pair. -/
def pairedChar (high low : Nat) : Char :=
  Char.ofNat ((high - 0xD800) * 0x400 + (low - 0xDC00) + 0x10000)

/-- Splits what follows an opening quote into the text it begins and what comes after the closing
quote. -/
def textBody : List Char → Option (List Char × List Char)
  | [] => none
  | '"' :: rest => some ([], rest)
  | '\\' :: 'u' :: a :: b :: c :: d :: rest =>
    match Text.hexNumber? [a, b, c, d] with
    | none => none
    | some n =>
      if isHighSurrogate n then
        match rest with
        | '\\' :: 'u' :: e :: f :: g :: h :: rest =>
          match Text.hexNumber? [e, f, g, h] with
          | none => none
          | some low =>
            if isLowSurrogate low then
              (textBody rest).map fun p => (pairedChar n low :: p.1, p.2)
            else none
        | _ => none
      else if isLowSurrogate n then none
      else (textBody rest).map fun p => (Char.ofNat n :: p.1, p.2)
  | '\\' :: c :: rest =>
    match unescape? c with
    | none => none
    | some x => (textBody rest).map fun p => (x :: p.1, p.2)
  | c :: rest =>
    if c.toNat < 0x20 || c = '\\' then none
    else (textBody rest).map fun p => (c :: p.1, p.2)

/-! ### Numbers -/

/-- The greatest significand kept exactly. -/
def maxSignificand : Nat := Nat.pow 2 64 - 1

/-- A significand and the number of the digits that no longer fit into it: digits are taken in until
one would exceed `maxSignificand`, and are only counted from there on. -/
def gather (significand : Nat) : List Char → Nat × Nat
  | [] => (significand, 0)
  | c :: cs =>
    let next := significand * 10 + (c.toNat - '0'.toNat)
    if next ≤ maxSignificand then gather next cs else (significand, cs.length + 1)

/-- The double nearest to a natural number, as a natural number. -/
def nearestDouble (n : Nat) : Nat :=
  let place := n.log2 - 52
  Decimal.roundHalfEven n (Nat.pow 2 place) * Nat.pow 2 place

/-- The least number that rounds to infinity. -/
def overflowBound : Nat := Nat.pow 2 1024 - Nat.pow 2 970

/-- Whether `significand * 10 ^ exponent` is finite when both factors are rounded to doubles. -/
def isFinite (significand : Nat) (exponent : Int) : Bool :=
  significand == 0 || decide (exponent ≤ 0) ||
    (decide (exponent ≤ 308) &&
      decide (nearestDouble significand * nearestDouble (Nat.pow 10 exponent.toNat) <
        overflowBound))

/-- Whether a number with these digits before and after its point and this exponent is finite.
Digits before the point that do not fit raise the exponent; digits after it that do fit lower it. -/
def isInRange (whole fraction : List Char) (exponent : Int) : Bool :=
  let w := gather 0 whole
  let f := gather w.1 fraction
  isFinite f.1 (w.2 - ((fraction.length : Int) - f.2) + exponent)

/-- The sign of an exponent as it is written, and what follows it. -/
def exponentSign : List Char → List Char × List Char
  | '+' :: cs => (['+'], cs)
  | '-' :: cs => (['-'], cs)
  | cs => ([], cs)

/-- The exponent of a number as it is written, its value and the characters left; none when a digit
is missing. -/
def exponentPart : List Char → Option (List Char × Int × List Char)
  | e :: cs =>
    if e = 'e' || e = 'E' then
      let sign := exponentSign cs
      let digits := sign.2.takeWhile Char.isDigit
      if digits.isEmpty then none
      else
        let value : Int := Decimal.digitsValue digits
        some (e :: sign.1 ++ digits, if sign.1 = ['-'] then -value else value,
          sign.2.dropWhile Char.isDigit)
    else some ([], 0, e :: cs)
  | [] => some ([], 0, [])

/-- The fraction of a number as it is written, its digits and the characters left; none when there
is a point and no digit. -/
def fractionPart : List Char → Option (List Char × List Char × List Char)
  | '.' :: cs =>
    let digits := cs.takeWhile Char.isDigit
    if digits.isEmpty then none else some ('.' :: digits, digits, cs.dropWhile Char.isDigit)
  | cs => some ([], [], cs)

/-- The number at the front of a text that starts with no sign, and the characters left; none when
there is no number or it is not within range. No digit may follow a leading zero. -/
def unsignedNumber? (cs : List Char) : Option (List Char × List Char) :=
  let whole := cs.takeWhile Char.isDigit
  if whole.isEmpty || (whole.head? == some '0' && decide (1 < whole.length)) then none
  else do
    let (fractionText, fraction, cs) ← fractionPart (cs.dropWhile Char.isDigit)
    let (exponentText, exponent, cs) ← exponentPart cs
    if isInRange whole fraction exponent then
      return (whole ++ fractionText ++ exponentText, cs)
    else none

/-- The number at the front of a text, and the characters left. -/
def number? : List Char → Option (List Char × List Char)
  | '-' :: cs => (unsignedNumber? cs).map fun p => ('-' :: p.1, p.2)
  | cs => unsignedNumber? cs

theorem exponentPart_append {cs : List Char} {p : List Char × Int × List Char}
    (h : exponentPart cs = some p) : p.1 ++ p.2.2 = cs := by
  unfold exponentPart at h
  split at h
  next e cs =>
    split at h
    next =>
      simp only at h
      split at h
      next => simp at h
      next =>
        cases h
        have hs : (exponentSign cs).1 ++ (exponentSign cs).2 = cs := by
          unfold exponentSign
          split <;> rfl
        simp [List.takeWhile_append_dropWhile, hs]
    next => cases h; rfl
  next => cases h; rfl

theorem fractionPart_append {cs : List Char} {p : List Char × List Char × List Char}
    (h : fractionPart cs = some p) : p.1 ++ p.2.2 = cs := by
  unfold fractionPart at h
  split at h
  next cs =>
    simp only at h
    split at h
    next => simp at h
    next => cases h; simp [List.takeWhile_append_dropWhile]
  next => cases h; rfl

theorem unsignedNumber?_append {cs : List Char} {p : List Char × List Char}
    (h : unsignedNumber? cs = some p) : p.1 ≠ [] ∧ p.1 ++ p.2 = cs := by
  unfold unsignedNumber? at h
  simp only [Option.bind_eq_bind] at h
  split at h
  next => cases h
  next hw =>
    obtain ⟨f, hf, h⟩ := Option.bind_eq_some_iff.1 h
    obtain ⟨e, he, h⟩ := Option.bind_eq_some_iff.1 h
    split at h
    next =>
      cases h
      have hwhole : cs.takeWhile Char.isDigit ≠ [] := by
        intro hnil
        simp [hnil] at hw
      refine ⟨by simp [hwhole], ?_⟩
      have he' := exponentPart_append he
      have hf' := fractionPart_append hf
      simp only [List.append_assoc]
      rw [he', hf', List.takeWhile_append_dropWhile]
    next => cases h

theorem number?_append {cs : List Char} {p : List Char × List Char} (h : number? cs = some p) :
    p.1 ≠ [] ∧ p.1 ++ p.2 = cs := by
  unfold number? at h
  split at h
  next cs =>
    obtain ⟨q, hq, rfl⟩ := Option.map_eq_some_iff.1 h
    simpa using (unsignedNumber?_append hq).2
  next => exact unsignedNumber?_append h

/-! ### Lexemes -/

/-- The lexeme at the front of `c :: cs`, where `c` is no blank, and the characters left. -/
def cut (c : Char) (cs : List Char) : Lexeme × List Char :=
  match c, cs with
  | '\x7b', cs => (.openBrace, cs)
  | '\x7d', cs => (.closeBrace, cs)
  | '[', cs => (.openBracket, cs)
  | ']', cs => (.closeBracket, cs)
  | ':', cs => (.colon, cs)
  | ',', cs => (.comma, cs)
  | 'n', 'u' :: 'l' :: 'l' :: cs => (.null, cs)
  | 't', 'r' :: 'u' :: 'e' :: cs => (.bool true, cs)
  | 'f', 'a' :: 'l' :: 's' :: 'e' :: cs => (.bool false, cs)
  | '"', cs =>
    match textBody cs with
    | some (value, rest) => (.string (String.ofList value), rest)
    | none => (.invalid, [])
  | c, cs =>
    match number? (c :: cs) with
    | some (literal, rest) => (.number (String.ofList literal), rest)
    | none => (.invalid, [])

theorem textBody_length {cs : List Char} {p : List Char × List Char} (h : textBody cs = some p) :
    p.2.length < cs.length := by
  fun_induction textBody cs generalizing p <;> simp_all <;>
    first
      | (subst h; simp)
      | (obtain ⟨a, b, hb, rfl⟩ := h; grind)

theorem cut_length (c : Char) (cs : List Char) : (cut c cs).2.length ≤ cs.length := by
  unfold cut
  split <;> try simp
  · omega
  · omega
  · omega
  · split
    next h => exact Nat.le_of_lt (textBody_length h)
    next => simp
  · split
    next h =>
      obtain ⟨hne, happ⟩ := number?_append h
      have hlen := congrArg List.length happ
      have hpos := List.length_pos_iff.2 hne
      simp only [List.length_append, List.length_cons] at hlen
      simp only at hpos ⊢
      omega
    next => simp

/-- The lexemes of a text. -/
def lex : List Char → List Lexeme
  | [] => []
  | c :: cs =>
    if isBlank c then lex cs
    else
      let p := cut c cs
      p.1 :: lex p.2
termination_by cs => cs.length
decreasing_by
  · simp
  · have := cut_length c cs
    simp
    omega

end EventSheet.Json
