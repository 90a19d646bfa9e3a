import EventSheet.Text.Numeric
import EventSheet.Token.Basic

/-!
# Cutting a text into tokens

`Lexeme.first` cuts the longest token from the front of a text that starts with no blank, and
`Token.lexFrom` repeats it, leaving blanks out. No text is refused: whatever starts no token is a
token of kind `unknown`, and a text literal without its closing quote takes all that is left.
`Lexeme.first_text_append_rest` says that cutting loses nothing and `Lexeme.first_text_ne_nil` that
it always makes progress.
-/

namespace EventSheet

/-- The characters that separate tokens. -/
def isBlank (c : Char) : Bool :=
  c == ' ' || c == '\t' || c == '\r' || c == '\n'

/-- The characters a name starts with. -/
def isNameStart (c : Char) : Bool :=
  Text.isAlphabetic c || c == '_'

/-- The characters a name goes on with. -/
def isNamePart (c : Char) : Bool :=
  Text.isAlphanumeric c || c == '_'

/-- The kind of token that a character makes on its own, whatever follows it. -/
def TokenKind.ofChar? : Char → Option TokenKind
  | '(' => some .openParen
  | ')' => some .closeParen
  | '[' => some .openBracket
  | ']' => some .closeBracket
  | ',' => some .comma
  | '+' => some .plus
  | '-' => some .minus
  | '*' => some .star
  | '/' => some .slash
  | '^' => some .caret
  | _ => none

/-- A token cut from the front of a text, before it is given a place: its kind, its characters and
the characters left. -/
structure Lexeme where
  kind : TokenKind
  text : List Char
  rest : List Char

namespace Lexeme

/-- Digits, then a point with the digits after it when there is one. -/
def number (cs : List Char) : Lexeme :=
  let whole := cs.takeWhile Char.isDigit
  match cs.dropWhile Char.isDigit with
  | '.' :: rest =>
    ⟨.number, whole ++ '.' :: rest.takeWhile Char.isDigit, rest.dropWhile Char.isDigit⟩
  | rest => ⟨.number, whole, rest⟩

/-- Splits what follows an opening quote after the closing one. A backslash takes the character
after it along, so that neither can close the text. -/
def closeQuote : List Char → Option (List Char × List Char)
  | [] => none
  | '"' :: cs => some (['"'], cs)
  | ['\\'] => none
  | '\\' :: c :: cs => (closeQuote cs).map fun p => ('\\' :: c :: p.1, p.2)
  | c :: cs => (closeQuote cs).map fun p => (c :: p.1, p.2)

/-- A text literal, from what follows its opening quote. -/
def textLiteral (cs : List Char) : Lexeme :=
  match closeQuote cs with
  | some (body, rest) => ⟨.string, '"' :: body, rest⟩
  | none => ⟨.unterminatedString, '"' :: cs, []⟩

/-- The token at the front of `c :: cs`, where `c` is no blank. -/
def first (c : Char) (cs : List Char) : Lexeme :=
  match TokenKind.ofChar? c with
  | some kind => ⟨kind, [c], cs⟩
  | none =>
    if c = '.' then
      if (cs.head?.map Char.isDigit).getD false then number (c :: cs) else ⟨.dot, [c], cs⟩
    else if c = ':' then
      if cs.head? = some ':' then ⟨.colonColon, [c, ':'], cs.drop 1⟩ else ⟨.unknown, [c], cs⟩
    else if c = '"' then textLiteral cs
    else if c.isDigit then number (c :: cs)
    else if isNameStart c then ⟨.ident, c :: cs.takeWhile isNamePart, cs.dropWhile isNamePart⟩
    else ⟨.unknown, [c], cs⟩

theorem number_text_append_rest (cs : List Char) : (number cs).text ++ (number cs).rest = cs := by
  have h := List.takeWhile_append_dropWhile (p := Char.isDigit) (l := cs)
  unfold number
  split
  next rest hrest =>
    rw [hrest] at h
    simpa [List.append_assoc] using h
  next => exact h

theorem number_kind (cs : List Char) : (number cs).kind = .number := by
  unfold number
  split <;> rfl

theorem closeQuote_append {cs : List Char} {p : List Char × List Char}
    (h : closeQuote cs = some p) : p.1 ++ p.2 = cs := by
  fun_induction closeQuote cs generalizing p with
  | case1 => simp at h
  | case2 cs => cases h; rfl
  | case3 => simp at h
  | case4 c cs ih =>
    obtain ⟨q, hq, rfl⟩ := Option.map_eq_some_iff.1 h
    simp [ih hq]
  | case5 c cs _ _ _ ih =>
    obtain ⟨q, hq, rfl⟩ := Option.map_eq_some_iff.1 h
    simp [ih hq]

theorem textLiteral_text_append_rest (cs : List Char) :
    (textLiteral cs).text ++ (textLiteral cs).rest = '"' :: cs := by
  unfold textLiteral
  split
  next body rest h => simp [closeQuote_append h]
  next => simp

theorem first_text_append_rest (c : Char) (cs : List Char) :
    (first c cs).text ++ (first c cs).rest = c :: cs := by
  unfold first
  split
  · simp
  · split
    · split
      · exact number_text_append_rest _
      · simp
    · split
      · split
        next h => cases cs <;> simp_all
        next => simp
      · split
        next h => rw [textLiteral_text_append_rest, h]
        next =>
          split
          · exact number_text_append_rest _
          · split
            · simp [List.takeWhile_append_dropWhile]
            · simp

theorem number_text_ne_nil {c : Char} {cs : List Char} (h : c.isDigit = true ∨ c = '.') :
    (number (c :: cs)).text ≠ [] := by
  unfold number
  split
  next => simp
  next hrest =>
    intro hnil
    have hnil : (c :: cs).takeWhile Char.isDigit = [] := hnil
    rcases h with hd | rfl
    · simp [hd] at hnil
    · exact hrest cs (by simp [Char.isDigit])

theorem first_text_ne_nil (c : Char) (cs : List Char) : (first c cs).text ≠ [] := by
  unfold first
  split
  · simp
  · split
    next h =>
      split
      · exact number_text_ne_nil (.inr h)
      · simp
    next =>
      split
      · split <;> simp
      · split
        · unfold textLiteral
          split <;> simp
        · split
          next h => exact number_text_ne_nil (.inl h)
          next => split <;> simp

theorem first_rest_length (c : Char) (cs : List Char) :
    (first c cs).rest.length ≤ cs.length := by
  have h := congrArg List.length (first_text_append_rest c cs)
  have hpos := List.length_pos_iff.2 (first_text_ne_nil c cs)
  simp only [List.length_append, List.length_cons] at h
  omega

end Lexeme

namespace Token

/-- The tokens of a text whose first character stands at `offset`. -/
def lexFrom (offset : Nat) : List Char → List Token
  | [] => []
  | c :: cs =>
    if isBlank c then lexFrom (offset + c.utf8Size) cs
    else
      let lexeme := Lexeme.first c cs
      let stop := offset + Text.byteLength lexeme.text
      ⟨lexeme.kind, String.ofList lexeme.text, ⟨offset, stop⟩⟩ :: lexFrom stop lexeme.rest
termination_by cs => cs.length
decreasing_by
  · simp
  · have := Lexeme.first_rest_length c cs
    simp
    omega

/-- The tokens of an expression, without the one at the end. -/
def lex (source : String) : List Token := lexFrom 0 source.toList

/-- The tokens of an expression, closed by the one at its end. -/
def tokenize (source : String) : List Token :=
  lex source ++ [atEnd (Text.byteLength source.toList)]

end Token

end EventSheet
