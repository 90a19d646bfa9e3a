import EventSheet.Proofs.Lexing.Spacing
import EventSheet.Proofs.Reading.Acceptance

/-!
# Reading text literals back

A written value is one token and one node, and every token of a text literal is decoded between the
quotes that it was cut at: `texts_read_back`.
-/

namespace EventSheet

open Text (byteLength)

theorem Token.exists_textBody_of_mem {offset : Nat} {cs : List Char} {t : Token}
    (ht : t ∈ lexFrom offset cs) (hkind : t.kind = .string) :
    ∃ inner, TextBody inner ∧ t.text.toList = '"' :: (inner ++ ['"']) := by
  fun_induction lexFrom offset cs with
  | case1 => cases ht
  | case2 offset c cs _ ih => exact ih ht
  | case3 offset c cs _ lexeme stop ih =>
    rcases List.mem_cons.1 ht with rfl | ht
    · obtain ⟨inner, hinner, htext⟩ := Lexeme.exists_textBody_of_first hkind
      exact ⟨inner, hinner, by rw [String.toList_ofList, htext]⟩
    · exact ih ht

/-- A written value is one token. -/
theorem Token.lex_writeText (value : String) :
    lex (writeText value) =
      [⟨.string, writeText value, ⟨0, byteLength (writeText value).toList⟩⟩] := by
  have hblank : isBlank '"' = false := rfl
  have hcut : Lexeme.first '"' (writeBody value.toList ++ ['"']) =
      ⟨.string, '"' :: (writeBody value.toList ++ ['"']), []⟩ := by
    rw [Lexeme.first_of_quote]
    exact Lexeme.textLiteral_of_textBody (textBody_writeBody _) []
  rw [lex, toList_writeText, lexFrom_of_not_blank hblank, hcut, Nat.zero_add, lexFrom]
  rfl

/-- A text that is one literal is a node of the value of the literal. -/
theorem parse_of_literal {source : String} {t : Token} (h : Token.lex source = [t])
    (hkind : t.kind = .string) : parse source = ⟨.string (decodeText t.text) t.span, []⟩ := by
  have htokens : (Reader.start source).tokens = [t] := h
  have hstring : (Reader.start source).kind = .string := (Reader.kind_eq htokens).trans hkind
  have hend : (Reader.start source).advance.kind = .eof :=
    Reader.kind_eq_eof (Reader.advance_tokens_eq htokens)
  have hread : readText source =
      (.string (decodeText t.text) t.span, (Reader.start source).advance) := by
    rw [readText, nestingLimit, expression_succ, operand_of_string _ hstring,
      operations_of_none _ _ (by rw [hend]; rfl), Reader.token_eq htokens]
  have hclose : closeText (Reader.start source).advance = (Reader.start source).advance :=
    if_pos hend
  rw [parse_of_ne_nil (by simp [h]), hread, hclose, Reader.advance_diagnostics]
  rfl

/-- Every value can be written as a text literal and is read back: what it is written as is one
token and reads as a node of that value, without diagnostics. And whatever text a token of a text
literal was cut from, decoding drops exactly its first and last quote and meets no backslash with
nothing after it. -/
theorem texts_read_back :
    (∀ value, Token.tokenize (writeText value) =
        [⟨.string, writeText value, ⟨0, byteLength (writeText value).toList⟩⟩,
          ⟨.eof, "", Span.point (byteLength (writeText value).toList)⟩] ∧
      parse (writeText value) = ⟨.string value ⟨0, byteLength (writeText value).toList⟩, []⟩) ∧
    ∀ source, ∀ t ∈ Token.tokenize source, t.kind = .string →
      ∃ inner, t.text.toList = '"' :: (inner ++ ['"']) ∧ stripQuotes t.text.toList = inner ∧
        .lone ∉ textPieces inner := by
  refine ⟨?_, ?_⟩
  · intro value
    refine ⟨?_, ?_⟩
    · rw [Token.tokenize, Token.lex_writeText]
      rfl
    · rw [parse_of_literal (Token.lex_writeText value) rfl, decodeText_writeText]
  · intro source t ht hkind
    rcases List.mem_append.1 ht with ht | ht
    · obtain ⟨inner, hinner, htext⟩ := Token.exists_textBody_of_mem ht hkind
      exact ⟨inner, htext, by rw [htext, stripQuotes_quoted], hinner.lone_not_mem⟩
    · rw [List.mem_singleton.1 ht] at hkind
      cases hkind

/-- A literal with an escaped quote, as an operand. -/
theorem texts_read_back_operand :
    let t : Token := ⟨.string, "\"a\\\"b\"", ⟨4, 10⟩⟩
    t ∈ Token.tokenize "1 + \"a\\\"b\"" ∧ t.kind = .string ∧
      ∃ inner, t.text.toList = '"' :: (inner ++ ['"']) ∧ stripQuotes t.text.toList = inner ∧
        .lone ∉ textPieces inner := by
  intro t
  have ht : t ∈ Token.tokenize "1 + \"a\\\"b\"" := by decide +kernel
  exact ⟨ht, rfl, texts_read_back.2 _ t ht rfl⟩

end EventSheet
