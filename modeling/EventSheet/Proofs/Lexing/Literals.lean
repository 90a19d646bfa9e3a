import EventSheet.Text.Literal
import EventSheet.Token.Lexer

/-!
# Text literals

Finding the closing quote of a text literal and decoding the literal go through the same pieces: in
both a backslash takes the character after it along. So the literal is closed behind what can stand
between quotes, and decoding what a value is written as gives the value back:
`Lexeme.closeQuote_eq_some_iff` and `decodeText_writeText`.
-/

namespace EventSheet

/-! ### Between the quotes -/

/-- What can stand between the quotes of a text literal: characters other than a quote and a
backslash, and backslashes with any character after each. -/
inductive TextBody : List Char → Prop
  | nil : TextBody []
  | plain {c : Char} {cs : List Char} : c ≠ '"' → c ≠ '\\' → TextBody cs → TextBody (c :: cs)
  | escaped {c : Char} {cs : List Char} : TextBody cs → TextBody ('\\' :: c :: cs)

theorem TextBody.append {cs ds : List Char} (h : TextBody cs) (h' : TextBody ds) :
    TextBody (cs ++ ds) := by
  induction h with
  | nil => exact h'
  | plain hquote hescape _ ih => exact .plain hquote hescape ih
  | escaped _ ih => exact .escaped ih

theorem textPieces_cons {c : Char} (h : c ≠ '\\') (cs : List Char) :
    textPieces (c :: cs) = .plain c :: textPieces cs := by
  rw [textPieces]
  · exact fun hc => absurd hc h
  · exact fun _ _ hc => absurd hc h

theorem textPieces_escape (c : Char) (cs : List Char) :
    textPieces ('\\' :: c :: cs) = .escaped c :: textPieces cs := by
  rw [textPieces]

/-- Decoding what stands between quotes meets no backslash without a character after it. -/
theorem TextBody.lone_not_mem {cs : List Char} (h : TextBody cs) : .lone ∉ textPieces cs := by
  induction h with
  | nil => exact nofun
  | plain _ hescape _ ih =>
    rw [textPieces_cons hescape]
    simpa using ih
  | escaped _ ih =>
    rw [textPieces_escape]
    simpa using ih

namespace Lexeme

theorem closeQuote_cons {c : Char} (hquote : c ≠ '"') (hescape : c ≠ '\\') (cs : List Char) :
    closeQuote (c :: cs) = (closeQuote cs).map fun p => (c :: p.1, p.2) := by
  rw [closeQuote]
  · exact hquote
  · exact fun h => absurd h hescape
  · exact fun _ _ h => absurd h hescape

theorem closeQuote_of_textBody {inner : List Char} (h : TextBody inner) (rest : List Char) :
    closeQuote (inner ++ '"' :: rest) = some (inner ++ ['"'], rest) := by
  induction h with
  | nil => rfl
  | plain hquote hescape _ ih =>
    rw [List.cons_append, closeQuote_cons hquote hescape, ih]
    rfl
  | escaped _ ih =>
    rw [List.cons_append, List.cons_append, closeQuote, ih]
    rfl

theorem exists_textBody_of_closeQuote {cs : List Char} {p : List Char × List Char}
    (h : closeQuote cs = some p) :
    ∃ inner, TextBody inner ∧ p.1 = inner ++ ['"'] ∧ cs = inner ++ '"' :: p.2 := by
  fun_induction closeQuote cs generalizing p with
  | case1 => cases h
  | case2 cs =>
    cases h
    exact ⟨[], .nil, rfl, rfl⟩
  | case3 => cases h
  | case4 c cs ih =>
    obtain ⟨q, hq, rfl⟩ := Option.map_eq_some_iff.1 h
    obtain ⟨inner, hinner, hbody, rfl⟩ := ih hq
    exact ⟨'\\' :: c :: inner, .escaped hinner, by rw [hbody]; rfl, rfl⟩
  | case5 c cs hquote hend hescape ih =>
    obtain ⟨q, hq, rfl⟩ := Option.map_eq_some_iff.1 h
    obtain ⟨inner, hinner, hbody, rfl⟩ := ih hq
    have hplain : c ≠ '\\' := by
      rintro rfl
      cases inner with
      | nil => exact hescape _ _ rfl rfl
      | cons d ds => exact hescape _ _ rfl rfl
    exact ⟨c :: inner, .plain hquote hplain hinner, by rw [hbody]; rfl, rfl⟩

/-- The closing quote is the one behind what can stand between quotes. -/
theorem closeQuote_eq_some_iff {cs : List Char} {p : List Char × List Char} :
    closeQuote cs = some p ↔
      ∃ inner, TextBody inner ∧ p.1 = inner ++ ['"'] ∧ cs = inner ++ '"' :: p.2 := by
  refine ⟨exists_textBody_of_closeQuote, ?_⟩
  rintro ⟨inner, hinner, hbody, rfl⟩
  rw [closeQuote_of_textBody hinner, ← hbody]

theorem textLiteral_of_textBody {inner : List Char} (h : TextBody inner) (rest : List Char) :
    textLiteral (inner ++ '"' :: rest) = ⟨.string, '"' :: (inner ++ ['"']), rest⟩ := by
  simp only [textLiteral, closeQuote_of_textBody h]

theorem exists_textBody_of_textLiteral {cs : List Char} (h : (textLiteral cs).kind = .string) :
    ∃ inner, TextBody inner ∧ (textLiteral cs).text = '"' :: (inner ++ ['"']) := by
  unfold textLiteral at h ⊢
  split at h
  next body rest hclose =>
    obtain ⟨inner, hinner, hbody, -⟩ := exists_textBody_of_closeQuote hclose
    exact ⟨inner, hinner, congrArg ('"' :: ·) hbody⟩
  next => exact nomatch h

/-- A token of kind `string` has what can stand between quotes between its quotes. -/
theorem exists_textBody_of_first {c : Char} {cs : List Char} (h : (first c cs).kind = .string) :
    ∃ inner, TextBody inner ∧ (first c cs).text = '"' :: (inner ++ ['"']) := by
  have hnumber : ∀ ds, (number ds).kind ≠ .string := by
    intro ds
    rw [number_kind]
    exact nofun
  have hchar : ∀ k, TokenKind.ofChar? c = some k → k ≠ .string := by
    rintro k hk rfl
    revert hk
    unfold TokenKind.ofChar?
    split <;> exact nofun
  revert h
  unfold first
  split
  next k hk => exact fun h => absurd h (hchar k hk)
  next =>
    repeat' split
    · exact fun h => absurd h (hnumber _)
    · exact nofun
    · exact nofun
    · exact nofun
    · exact exists_textBody_of_textLiteral
    · exact fun h => absurd h (hnumber _)
    · exact nofun
    · exact nofun

end Lexeme

/-- Decoding drops exactly the quotes around a literal, whatever stands between them. -/
theorem stripQuotes_quoted (inner : List Char) : stripQuotes ('"' :: (inner ++ ['"'])) = inner := by
  simp [stripQuotes]

/-! ### Writing values -/

/-- A character as it is written between quotes: a quote and a backslash take a backslash before
them. -/
def writeChar (c : Char) : List Char := if c = '"' ∨ c = '\\' then ['\\', c] else [c]

/-- A value as it is written between quotes. -/
def writeBody (value : List Char) : List Char := value.flatMap writeChar

/-- A value as it is written. -/
def writeText (value : String) : String := String.ofList ('"' :: (writeBody value.toList ++ ['"']))

theorem textBody_writeChar (c : Char) : TextBody (writeChar c) := by
  unfold writeChar
  split
  next => exact .escaped .nil
  next h =>
    rw [not_or] at h
    exact .plain h.1 h.2 .nil

theorem textBody_writeBody (value : List Char) : TextBody (writeBody value) := by
  induction value with
  | nil => exact .nil
  | cons c cs ih => exact (textBody_writeChar c).append ih

/-- The pieces that a value is written in stand for its characters. -/
theorem flatMap_value_writeBody (value : List Char) :
    (textPieces (writeBody value)).flatMap TextPiece.value = value := by
  induction value with
  | nil => rfl
  | cons c cs ih =>
    have hcons : writeBody (c :: cs) = writeChar c ++ writeBody cs := rfl
    rw [hcons, writeChar]
    split
    next h => simp [textPieces_escape, TextPiece.value, h, ih]
    next h =>
      rw [not_or] at h
      simp [textPieces_cons h.2, TextPiece.value, ih]

theorem toList_writeText (value : String) :
    (writeText value).toList = '"' :: (writeBody value.toList ++ ['"']) :=
  String.toList_ofList

/-- Decoding what a value is written as gives the value back. -/
theorem decodeText_writeText (value : String) : decodeText (writeText value) = value := by
  rw [decodeText, toList_writeText, stripQuotes_quoted, flatMap_value_writeBody,
    String.ofList_toList]

end EventSheet
