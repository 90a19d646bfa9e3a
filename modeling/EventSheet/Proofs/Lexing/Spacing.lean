import EventSheet.Proofs.Lexing.Literals
import EventSheet.Proofs.Lexing.Positions

/-!
# Blanks between tokens

A token is cut from a text the same way whatever stood before it, and so it is when a blank or the
end of the text stands behind it. Hence the tokens of a text can be written down again with other
blanks between them and are the tokens of the new text, aside from where they stand:
`Token.form_tokenize_respaced`.
-/

namespace EventSheet

open Text (byteLength)

/-- What a token is, wherever it stands. -/
def Token.form (t : Token) : TokenKind × String := (t.kind, t.text)

/-- Whether a text is at its end or goes on with a blank. -/
def BlankFirst (cs : List Char) : Prop := ∀ c ∈ cs.head?, isBlank c = true

theorem BlankFirst.append {gap cs : List Char} (hgap : AllBlank gap)
    (h : gap = [] → BlankFirst cs) : BlankFirst (gap ++ cs) := by
  cases gap with
  | nil => exact h rfl
  | cons b bs =>
    intro c hc
    cases hc
    exact hgap b (.head _)

/-! ### Characters that no blank is -/

/-- Whether no blank passes a test of characters. -/
def RefusesBlanks (p : Char → Bool) : Prop := ∀ c, isBlank c = true → p c = false

theorem isBlank_iff {c : Char} : isBlank c = true ↔ c = ' ' ∨ c = '\t' ∨ c = '\r' ∨ c = '\n' := by
  simp [isBlank, or_assoc]

theorem refusesBlanks_isDigit : RefusesBlanks Char.isDigit := by
  intro c hc
  rcases isBlank_iff.1 hc with rfl | rfl | rfl | rfl <;> decide

theorem refusesBlanks_isNamePart : RefusesBlanks isNamePart := by
  intro c hc
  rcases isBlank_iff.1 hc with rfl | rfl | rfl | rfl <;> decide +kernel

section Runs

variable {p : Char → Bool} {run rest : List Char}

/-- A run of characters ends before a blank. -/
theorem RefusesBlanks.takeWhile_eq_nil (hp : RefusesBlanks p) (h : BlankFirst rest) :
    rest.takeWhile p = [] := by
  cases rest with
  | nil => rfl
  | cons c cs =>
    have hc : p c = false := hp c (h c rfl)
    simp [hc]

theorem RefusesBlanks.dropWhile_eq_self (hp : RefusesBlanks p) (h : BlankFirst rest) :
    rest.dropWhile p = rest := by
  cases rest with
  | nil => rfl
  | cons c cs =>
    have hc : p c = false := hp c (h c rfl)
    simp [hc]

theorem RefusesBlanks.takeWhile_append (hp : RefusesBlanks p) (h : BlankFirst rest)
    (hrun : ∀ c ∈ run, p c = true) : (run ++ rest).takeWhile p = run := by
  rw [List.takeWhile_append_of_pos hrun, hp.takeWhile_eq_nil h, List.append_nil]

theorem RefusesBlanks.dropWhile_append (hp : RefusesBlanks p) (h : BlankFirst rest)
    (hrun : ∀ c ∈ run, p c = true) : (run ++ rest).dropWhile p = rest := by
  rw [List.dropWhile_append_of_pos hrun, hp.dropWhile_eq_self h]

end Runs

/-! ### Single tokens -/

namespace Lexeme

theorem number_of_point {cs ds : List Char} (h : cs.dropWhile Char.isDigit = '.' :: ds) :
    number cs = ⟨.number, cs.takeWhile Char.isDigit ++ '.' :: ds.takeWhile Char.isDigit,
      ds.dropWhile Char.isDigit⟩ := by
  simp only [number, h]

theorem number_of_no_point {cs : List Char} (h : ∀ ds, cs.dropWhile Char.isDigit ≠ '.' :: ds) :
    number cs = ⟨.number, cs.takeWhile Char.isDigit, cs.dropWhile Char.isDigit⟩ := by
  unfold number
  split
  next ds hds => exact absurd hds (h ds)
  next => rfl

theorem takeWhile_length_le_number (cs : List Char) :
    (cs.takeWhile Char.isDigit).length ≤ (number cs).text.length := by
  unfold number
  split <;> simp

theorem number_respaced (cs : List Char) {rest : List Char} (h : BlankFirst rest) :
    number ((number cs).text ++ rest) = ⟨.number, (number cs).text, rest⟩ := by
  have hdigits : ∀ cs : List Char, ∀ c ∈ cs.takeWhile Char.isDigit, c.isDigit = true :=
    fun _ => List.all_eq_true.1 List.all_takeWhile
  by_cases hpoint : ∃ ds, cs.dropWhile Char.isDigit = '.' :: ds
  · obtain ⟨ds, hds⟩ := hpoint
    rw [number_of_point hds]
    dsimp only
    have hdrop : (cs.takeWhile Char.isDigit ++ '.' :: ds.takeWhile Char.isDigit ++ rest).dropWhile
        Char.isDigit = '.' :: (ds.takeWhile Char.isDigit ++ rest) := by
      rw [List.append_assoc, List.dropWhile_append_of_pos (hdigits cs)]
      rfl
    have htake : (cs.takeWhile Char.isDigit ++ '.' :: ds.takeWhile Char.isDigit ++ rest).takeWhile
        Char.isDigit = cs.takeWhile Char.isDigit := by
      rw [List.append_assoc, List.takeWhile_append_of_pos (hdigits cs)]
      exact List.append_nil _
    rw [number_of_point hdrop, htake, refusesBlanks_isDigit.takeWhile_append h (hdigits ds),
      refusesBlanks_isDigit.dropWhile_append h (hdigits ds)]
  · rw [number_of_no_point fun ds hds => hpoint ⟨ds, hds⟩]
    dsimp only
    rw [number_of_no_point, refusesBlanks_isDigit.takeWhile_append h (hdigits cs),
      refusesBlanks_isDigit.dropWhile_append h (hdigits cs)]
    rintro ds hds
    rw [refusesBlanks_isDigit.dropWhile_append h (hdigits cs)] at hds
    have hblank : isBlank '.' = true := h '.' (by rw [hds]; rfl)
    exact absurd hblank (by decide)

theorem closeQuote_respaced {cs : List Char} {p : List Char × List Char}
    (h : closeQuote cs = some p) (rest : List Char) :
    closeQuote (p.1 ++ rest) = some (p.1, rest) := by
  obtain ⟨inner, hinner, hbody, -⟩ := closeQuote_eq_some_iff.1 h
  refine closeQuote_eq_some_iff.2 ⟨inner, hinner, hbody, ?_⟩
  rw [hbody, List.append_assoc]
  rfl

theorem textLiteral_respaced (cs : List Char) {rest : List Char}
    (hopen : (textLiteral cs).kind = .unterminatedString → rest = []) :
    ∃ tail, (textLiteral cs).text = '"' :: tail ∧
      textLiteral (tail ++ rest) = ⟨(textLiteral cs).kind, (textLiteral cs).text, rest⟩ := by
  cases hclose : closeQuote cs with
  | some p =>
    have hcut : textLiteral cs = ⟨.string, '"' :: p.1, p.2⟩ := by simp only [textLiteral, hclose]
    rw [hcut]
    refine ⟨p.1, rfl, ?_⟩
    simp only [textLiteral, closeQuote_respaced hclose]
  | none =>
    have hcut : textLiteral cs = ⟨.unterminatedString, '"' :: cs, []⟩ := by
      simp only [textLiteral, hclose]
    rw [hcut] at hopen ⊢
    refine ⟨cs, rfl, ?_⟩
    rw [hopen rfl, List.append_nil, hcut]

section First

variable {c : Char} {cs : List Char}

theorem first_of_char {kind : TokenKind} (h : TokenKind.ofChar? c = some kind) (cs : List Char) :
    first c cs = ⟨kind, [c], cs⟩ := by
  simp only [first, h]

theorem first_of_none (h : TokenKind.ofChar? c = none) (cs : List Char) :
    first c cs =
      if c = '.' then
        if (cs.head?.map Char.isDigit).getD false then number (c :: cs) else ⟨.dot, [c], cs⟩
      else if c = ':' then
        if cs.head? = some ':' then ⟨.colonColon, [c, ':'], cs.drop 1⟩ else ⟨.unknown, [c], cs⟩
      else if c = '"' then textLiteral cs
      else if c.isDigit then number (c :: cs)
      else if isNameStart c then ⟨.ident, c :: cs.takeWhile isNamePart, cs.dropWhile isNamePart⟩
      else ⟨.unknown, [c], cs⟩ := by
  simp only [first, h]

theorem first_of_fraction (h : (cs.head?.map Char.isDigit).getD false = true) :
    first '.' cs = number ('.' :: cs) := by
  rw [first_of_none rfl, if_pos rfl, if_pos h]

theorem first_of_dot (h : (cs.head?.map Char.isDigit).getD false = false) :
    first '.' cs = ⟨.dot, ['.'], cs⟩ := by
  rw [first_of_none rfl, if_pos rfl, h]
  rfl

theorem first_of_colons (h : cs.head? = some ':') :
    first ':' cs = ⟨.colonColon, [':', ':'], cs.drop 1⟩ := by
  rw [first_of_none rfl, if_neg (by decide), if_pos rfl, if_pos h]

theorem first_of_colon (h : cs.head? ≠ some ':') : first ':' cs = ⟨.unknown, [':'], cs⟩ := by
  rw [first_of_none rfl, if_neg (by decide), if_pos rfl, if_neg h]

theorem first_of_quote (cs : List Char) : first '"' cs = textLiteral cs := by
  rw [first_of_none rfl, if_neg (by decide), if_neg (by decide), if_pos rfl]

/-- The characters that stand for themselves or begin a token of more than one kind. -/
def IsSpecial (c : Char) : Prop :=
  (TokenKind.ofChar? c).isSome = true ∨ c = '.' ∨ c = ':' ∨ c = '"'

theorem first_of_plain (h : ¬ IsSpecial c) (cs : List Char) :
    first c cs =
      if c.isDigit then number (c :: cs)
      else if isNameStart c then
        ⟨.ident, c :: cs.takeWhile isNamePart, cs.dropWhile isNamePart⟩
      else ⟨.unknown, [c], cs⟩ := by
  simp only [IsSpecial, not_or] at h
  obtain ⟨hkind, hdot, hcolon, hquote⟩ := h
  rw [Bool.not_eq_true, Option.isSome_eq_false_iff, Option.isNone_iff_eq_none] at hkind
  rw [first_of_none hkind, if_neg hdot, if_neg hcolon, if_neg hquote]

end First

/-- A token is cut from its own text again. -/
def Recut (c : Char) (cs rest : List Char) : Prop :=
  ∃ tail, (first c cs).text = c :: tail ∧
    first c (tail ++ rest) = ⟨(first c cs).kind, (first c cs).text, rest⟩

section Recut

variable {c : Char} {cs rest : List Char}

theorem head?_isDigit_of_blankFirst (h : BlankFirst rest) :
    (rest.head?.map Char.isDigit).getD false = false := by
  cases rest with
  | nil => rfl
  | cons b bs => exact refusesBlanks_isDigit b (h b rfl)

theorem recut_dot (h : BlankFirst rest) : Recut '.' cs rest := by
  cases hdigit : (cs.head?.map Char.isDigit).getD false with
  | false =>
    refine ⟨[], by rw [first_of_dot hdigit], ?_⟩
    rw [first_of_dot hdigit]
    exact first_of_dot (head?_isDigit_of_blankFirst h)
  | true =>
    have hpoint : ('.' :: cs).dropWhile Char.isDigit = '.' :: cs := rfl
    have htext : (number ('.' :: cs)).text = '.' :: cs.takeWhile Char.isDigit := by
      rw [number_of_point hpoint]
      rfl
    have hfraction : ((cs.takeWhile Char.isDigit ++ rest).head?.map Char.isDigit).getD false =
        true := by
      cases cs with
      | nil => exact nomatch hdigit
      | cons d ds =>
        have hd : d.isDigit = true := hdigit
        simp [hd]
    refine ⟨cs.takeWhile Char.isDigit, by rw [first_of_fraction hdigit, htext], ?_⟩
    rw [first_of_fraction hdigit, first_of_fraction hfraction, ← List.cons_append, ← htext,
      number_respaced _ h, number_of_point hpoint]

theorem recut_colon (h : BlankFirst rest) : Recut ':' cs rest := by
  by_cases hcolon : cs.head? = some ':'
  · refine ⟨[':'], by rw [first_of_colons hcolon], ?_⟩
    rw [first_of_colons hcolon]
    exact first_of_colons rfl
  · have hblank : rest.head? ≠ some ':' := by
      intro hrest
      exact absurd (h ':' hrest) (by decide)
    refine ⟨[], by rw [first_of_colon hcolon], ?_⟩
    rw [first_of_colon hcolon]
    exact first_of_colon hblank

theorem recut_plain (hplain : ¬ IsSpecial c) (h : BlankFirst rest) : Recut c cs rest := by
  by_cases hdigit : c.isDigit = true
  · have hnumber : ∀ cs, first c cs = number (c :: cs) := by
      intro cs
      rw [first_of_plain hplain, if_pos hdigit]
    obtain ⟨tail, htail⟩ : ∃ tail, (number (c :: cs)).text = c :: tail := by
      have hcut := number_text_append_rest (c :: cs)
      obtain ⟨d, tail, htext⟩ := List.exists_cons_of_ne_nil (@number_text_ne_nil c cs (.inl hdigit))
      rw [htext] at hcut
      exact ⟨tail, by rw [htext, (List.cons.inj hcut).1]⟩
    refine ⟨tail, by rw [hnumber, htail], ?_⟩
    rw [hnumber, hnumber, ← List.cons_append, ← htail, number_respaced _ h, number_kind]
  by_cases hname : isNameStart c = true
  · have hident : ∀ cs, first c cs =
        ⟨.ident, c :: cs.takeWhile isNamePart, cs.dropWhile isNamePart⟩ := by
      intro cs
      rw [first_of_plain hplain, if_neg hdigit, if_pos hname]
    have hparts : ∀ d ∈ cs.takeWhile isNamePart, isNamePart d = true :=
      List.all_eq_true.1 List.all_takeWhile
    refine ⟨cs.takeWhile isNamePart, by rw [hident], ?_⟩
    rw [hident, hident, refusesBlanks_isNamePart.takeWhile_append h hparts,
      refusesBlanks_isNamePart.dropWhile_append h hparts]
  · have hunknown : ∀ cs, first c cs = ⟨.unknown, [c], cs⟩ := by
      intro cs
      rw [first_of_plain hplain, if_neg hdigit, if_neg hname]
    refine ⟨[], by rw [hunknown], ?_⟩
    rw [hunknown, hunknown]
    rfl

/-- A token is cut again before a blank. What has no closing quote is cut again at the end. -/
theorem first_recut (c : Char) (cs : List Char) (h : BlankFirst rest)
    (hopen : (first c cs).kind = .unterminatedString → rest = []) : Recut c cs rest := by
  by_cases hspecial : IsSpecial c
  · rcases hspecial with hkind | rfl | rfl | rfl
    · obtain ⟨kind, hkind⟩ := Option.isSome_iff_exists.1 hkind
      refine ⟨[], by rw [first_of_char hkind], ?_⟩
      rw [first_of_char hkind, first_of_char hkind]
      rfl
    · exact recut_dot h
    · exact recut_colon h
    · rw [first_of_quote] at hopen
      obtain ⟨tail, htext, hcut⟩ := textLiteral_respaced cs hopen
      rw [Recut, first_of_quote]
      refine ⟨tail, htext, ?_⟩
      rw [first_of_quote, hcut]
  · exact recut_plain hspecial h

end Recut

end Lexeme

/-! ### Whole texts -/

/-- Tokens are written one after another with blanks between them. What has no closing quote takes
no blank behind it. -/
inductive Spaced : List Token → List Char → Prop
  | nil : Spaced [] []
  | cons {t : Token} {ts : List Token} {gap cs : List Char} : AllBlank gap →
      (ts ≠ [] → gap ≠ []) → (t.kind = .unterminatedString → gap = []) → Spaced ts cs →
      Spaced (t :: ts) (t.text.toList ++ (gap ++ cs))

theorem Spaced.cons_blank {t : Token} {ts : List Token} {c : Char} {cs : List Char}
    (hc : isBlank c = true) (ht : t.kind ≠ .unterminatedString) (h : Spaced ts cs) :
    Spaced (t :: ts) (t.text.toList ++ ([c] ++ cs)) :=
  .cons (allBlank_cons.2 ⟨hc, allBlank_nil⟩) (fun _ => List.cons_ne_nil c [])
    (fun hopen => absurd hopen ht) h

/-- The second text has the tokens of the first one, with other blanks before, between and behind
them. -/
def Respaced (source target : String) : Prop :=
  ∃ gap cs, AllBlank gap ∧ target.toList = gap ++ cs ∧ Spaced (Token.lex source) cs

theorem Token.lexFrom_of_blank {gap : List Char} (h : AllBlank gap) (offset : Nat)
    (cs : List Char) : lexFrom offset (gap ++ cs) = lexFrom (offset + byteLength gap) cs := by
  induction gap generalizing offset with
  | nil => rfl
  | cons c gap ih =>
    obtain ⟨hc, hgap⟩ := allBlank_cons.1 h
    rw [List.cons_append, lexFrom, if_pos hc, ih hgap, Text.byteLength_cons, Nat.add_assoc]

theorem Token.lexFrom_of_not_blank {c : Char} (h : isBlank c = false) (offset : Nat)
    (cs : List Char) :
    lexFrom offset (c :: cs) =
      ⟨(Lexeme.first c cs).kind, String.ofList (Lexeme.first c cs).text,
        ⟨offset, offset + byteLength (Lexeme.first c cs).text⟩⟩ ::
          lexFrom (offset + byteLength (Lexeme.first c cs).text) (Lexeme.first c cs).rest := by
  rw [lexFrom, if_neg (by rw [h]; exact Bool.false_ne_true)]

/-- A character that makes a token on its own is cut off, whatever follows it. -/
theorem Token.lexFrom_of_char {c : Char} {kind : TokenKind} (h : TokenKind.ofChar? c = some kind)
    (offset : Nat) (cs : List Char) :
    lexFrom offset (c :: cs) =
      ⟨kind, String.singleton c, ⟨offset, offset + 1⟩⟩ :: lexFrom (offset + 1) cs := by
  have hascii : isBlank c = false ∧ byteLength [c] = 1 := by
    unfold TokenKind.ofChar? at h
    split at h <;> first | exact ⟨rfl, rfl⟩ | exact nomatch h
  rw [lexFrom_of_not_blank hascii.1, Lexeme.first_of_char h]
  dsimp only
  rw [hascii.2]
  rfl

/-- What has no closing quote leaves nothing behind it. -/
theorem Lexeme.rest_eq_nil_of_unterminated (c : Char) (cs : List Char) :
    (first c cs).kind = .unterminatedString → (first c cs).rest = [] := by
  have hnumber : ∀ cs, (number cs).kind ≠ .unterminatedString := by
    intro cs
    rw [number_kind]
    exact nofun
  have hchar : ∀ kind, TokenKind.ofChar? c = some kind → kind ≠ .unterminatedString := by
    rintro kind hkind rfl
    revert hkind
    unfold TokenKind.ofChar?
    split <;> exact nofun
  unfold first
  split
  next kind hkind => exact fun h => absurd h (hchar kind hkind)
  next =>
    repeat' split
    · exact fun h => absurd h (hnumber _)
    · exact nofun
    · exact nofun
    · exact nofun
    · unfold textLiteral
      split
      · exact nofun
      · exact fun _ => rfl
    · exact fun h => absurd h (hnumber _)
    · exact nofun
    · exact nofun

theorem Spaced.eq_nil {cs : List Char} (h : Spaced [] cs) : cs = [] := by
  cases h
  rfl

/-- Tokens with other blanks between them are cut again as they are. -/
theorem Token.form_lexFrom_spaced {offset : Nat} {cs : List Char} :
    ∀ (start : Nat) {target : List Char}, Spaced (lexFrom offset cs) target →
      (lexFrom start target).map form = (lexFrom offset cs).map form := by
  fun_induction lexFrom offset cs with
  | case1 =>
    intro start target h
    rw [h.eq_nil, lexFrom]
  | case2 offset c cs _ ih => exact ih
  | case3 offset c cs hc lexeme stop =>
    rename_i ih
    intro start target h
    have hc : isBlank c = false := by simpa using hc
    cases h with
    | @cons _ _ gap rest hgap hsep hopen hrest =>
      have hlast : lexFrom stop lexeme.rest = [] → rest = [] := by
        intro hnil
        rw [hnil] at hrest
        exact hrest.eq_nil
      have hblank : BlankFirst (gap ++ rest) := by
        refine .append hgap ?_
        intro hnil
        by_cases hnone : lexFrom stop lexeme.rest = []
        · simp [hlast hnone, BlankFirst]
        · exact absurd hnil (hsep hnone)
      have hend : lexeme.kind = .unterminatedString → gap ++ rest = [] := by
        intro hkind
        have hnil : lexeme.rest = [] := Lexeme.rest_eq_nil_of_unterminated c cs hkind
        rw [hopen hkind, hlast (by rw [hnil, lexFrom])]
        rfl
      obtain ⟨tail, htext, hcut⟩ := Lexeme.first_recut c cs hblank hend
      have hspelled : (String.ofList lexeme.text).toList = c :: tail := by
        rw [String.toList_ofList]
        exact htext
      dsimp only
      rw [hspelled, List.cons_append, lexFrom_of_not_blank hc, hcut,
        lexFrom_of_blank hgap]
      simp only [List.map_cons, ih _ hrest]
      rfl

/-- A text with other blanks between its tokens has the same tokens, aside from where they stand. -/
theorem Token.form_lex_respaced {source target : String} (h : Respaced source target) :
    (lex target).map form = (lex source).map form := by
  obtain ⟨gap, cs, hgap, htarget, hspaced⟩ := h
  rw [lex, htarget, lexFrom_of_blank hgap]
  exact form_lexFrom_spaced _ hspaced

theorem Token.form_tokenize_respaced {source target : String} (h : Respaced source target) :
    (tokenize target).map form = (tokenize source).map form := by
  rw [tokenize, tokenize, List.map_append, List.map_append, form_lex_respaced h]
  rfl

end EventSheet
