import EventSheet.Proofs.Lexing.Lossless
import EventSheet.Proofs.Lexing.Spacing

/-!
# The longest token

`Lexeme.Matches` says of each kind how its tokens are written, without saying how one is found. Of
all the beginnings of a text that are written as some token, cutting takes the longest one, and it
is written as a token of no other kind: `Token.maximal_munch`.
-/

namespace EventSheet

open Text (byteLength)

/-! ### How tokens are written -/

/-- Whether the characters are digits, all of them. -/
def AllDigits (cs : List Char) : Prop := ∀ c ∈ cs, c.isDigit = true

/-- How a number is written: digits, with a point and more digits behind them or not, or a point
with digits behind it. -/
inductive NumberText : List Char → Prop
  | whole {ds : List Char} : ds ≠ [] → AllDigits ds → NumberText ds
  | pointed {ds es : List Char} : ds ≠ [] → AllDigits ds → AllDigits es →
      NumberText (ds ++ '.' :: es)
  | fraction {es : List Char} : es ≠ [] → AllDigits es → NumberText ('.' :: es)

theorem NumberText.exists_digit {cs : List Char} (h : NumberText cs) :
    ∃ d ∈ cs, d.isDigit = true := by
  cases h with
  | whole hne hdigits =>
    obtain ⟨d, ds, rfl⟩ := List.exists_cons_of_ne_nil hne
    exact ⟨d, .head _, hdigits d (.head _)⟩
  | pointed hne hdigits _ =>
    obtain ⟨d, ds, rfl⟩ := List.exists_cons_of_ne_nil hne
    exact ⟨d, .head _, hdigits d (.head _)⟩
  | fraction hne hdigits =>
    obtain ⟨d, ds, rfl⟩ := List.exists_cons_of_ne_nil hne
    exact ⟨d, .tail _ (.head _), hdigits d (.head _)⟩

namespace Lexeme

/-- The characters that are a token of one kind on their own. -/
def signs : List (Char × TokenKind) :=
  [('+', .plus), ('-', .minus), ('*', .star), ('/', .slash), ('^', .caret), ('(', .openParen),
   (')', .closeParen), ('[', .openBracket), (']', .closeBracket), (',', .comma), ('.', .dot)]

/-- How the tokens of a kind are written: the characters of the token and those behind it. Only what
has no closing quote, and the end, asks what is behind. -/
inductive Matches : TokenKind → List Char → List Char → Prop
  | number {cs rest : List Char} : NumberText cs → Matches .number cs rest
  | ident {c : Char} {cs rest : List Char} : isNameStart c = true →
      (∀ d ∈ cs, isNamePart d = true) → Matches .ident (c :: cs) rest
  | string {inner rest : List Char} : TextBody inner →
      Matches .string ('"' :: (inner ++ ['"'])) rest
  | unterminated {cs : List Char} : (∀ inner rest, TextBody inner → cs ≠ inner ++ '"' :: rest) →
      Matches .unterminatedString ('"' :: cs) []
  | sign {c : Char} {kind : TokenKind} {rest : List Char} : (c, kind) ∈ signs →
      Matches kind [c] rest
  | colons {rest : List Char} : Matches .colonColon [':', ':'] rest
  | unknown {c : Char} {rest : List Char} : isBlank c = false → c.isDigit = false →
      isNameStart c = false → c ≠ '"' → (∀ kind, (c, kind) ∉ signs) → Matches .unknown [c] rest
  | eof : Matches .eof [] []

theorem Matches.numberText {text rest : List Char} (h : Matches .number text rest) :
    NumberText text := by
  cases h with
  | number htext => exact htext
  | sign hsign => simp [signs] at hsign

theorem Matches.eq_eof_of_nil {kind : TokenKind} (h : Matches kind [] []) : kind = .eof := by
  generalize hnil : ([] : List Char) = text at h
  cases h with
  | number htext =>
    subst hnil
    obtain ⟨d, hd, -⟩ := htext.exists_digit
    exact nomatch hd
  | eof => rfl
  | _ => exact nomatch hnil

/-! ### Characters by what they begin -/

/-- A sign makes a token on its own, but for the point, behind which a digit may stand. -/
theorem mem_signs_iff {c : Char} {kind : TokenKind} :
    (c, kind) ∈ signs ↔ TokenKind.ofChar? c = some kind ∨ (c = '.' ∧ kind = .dot) := by
  constructor
  · intro h
    simp only [signs, List.mem_cons, Prod.mk.injEq, List.not_mem_nil, or_false] at h
    rcases h with ⟨rfl, rfl⟩ | ⟨rfl, rfl⟩ | ⟨rfl, rfl⟩ | ⟨rfl, rfl⟩ | ⟨rfl, rfl⟩ | ⟨rfl, rfl⟩ |
      ⟨rfl, rfl⟩ | ⟨rfl, rfl⟩ | ⟨rfl, rfl⟩ | ⟨rfl, rfl⟩ | ⟨rfl, rfl⟩ <;> decide
  · rintro (h | ⟨rfl, rfl⟩)
    · unfold TokenKind.ofChar? at h
      split at h <;> simp_all [signs]
    · simp [signs]

theorem not_mem_signs_of_plain {c : Char} (h : ¬ IsSpecial c) (kind : TokenKind) :
    (c, kind) ∉ signs := by
  intro hsign
  rcases mem_signs_iff.1 hsign with hkind | ⟨rfl, -⟩
  · exact h (.inl (by rw [hkind]; rfl))
  · exact h (.inr (.inl rfl))

theorem isSpecial_excludes {c : Char} (h : IsSpecial c) :
    c.isDigit = false ∧ isNameStart c = false := by
  rcases h with hkind | rfl | rfl | rfl
  · unfold TokenKind.ofChar? at hkind
    split at hkind <;> first | decide +kernel | exact nomatch hkind
  all_goals decide +kernel

theorem isDigit_iff {c : Char} : c.isDigit = true ↔ 48 ≤ c.toNat ∧ c.toNat ≤ 57 := by
  simp only [Char.isDigit, Bool.and_eq_true, decide_eq_true_eq, UInt32.le_iff_toNat_le]
  exact Iff.rfl

/-- No name begins with a digit. -/
theorem isNameStart_of_isDigit {c : Char} (h : c.isDigit = true) : isNameStart c = false := by
  have hrange := isDigit_iff.1 h
  have hunderscore : c ≠ '_' := by
    rintro rfl
    exact absurd h (by decide)
  have hletter : c.isAlpha = false := by
    change (decide (65 ≤ c.val ∧ c.val ≤ 90) || c.val ≥ 97 && c.val ≤ 122) = false
    simp only [Bool.or_eq_false_iff, Bool.and_eq_false_iff, decide_eq_false_iff_not,
      UInt32.le_iff_toNat_le, ge_iff_le]
    change ¬ (65 ≤ c.toNat ∧ c.toNat ≤ 90) ∧ (¬ 97 ≤ c.toNat ∨ ¬ c.toNat ≤ 122)
    omega
  have hlow : c.toNat < 0x80 := by omega
  simp [isNameStart, Text.isAlphabetic, hlow, hletter, hunderscore]

/-! ### A token is written as its kind -/

section

variable {c : Char} {cs text rest : List Char} {kind : TokenKind}

theorem allDigits_takeWhile (cs : List Char) : AllDigits (cs.takeWhile Char.isDigit) :=
  List.all_eq_true.1 List.all_takeWhile

theorem numberText_of_digit (h : c.isDigit = true) : NumberText (number (c :: cs)).text := by
  have hne : (c :: cs).takeWhile Char.isDigit ≠ [] := by simp [h]
  by_cases hpoint : ∃ ds, (c :: cs).dropWhile Char.isDigit = '.' :: ds
  · obtain ⟨ds, hds⟩ := hpoint
    rw [number_of_point hds]
    exact .pointed hne (allDigits_takeWhile _) (allDigits_takeWhile _)
  · rw [number_of_no_point fun ds hds => hpoint ⟨ds, hds⟩]
    exact .whole hne (allDigits_takeWhile _)

/-- A point with a digit behind it begins a number. -/
theorem first_of_point_digits {es : List Char} (hne : es ≠ []) (hes : AllDigits es)
    (rest : List Char) :
    first '.' (es ++ rest) =
      ⟨.number, '.' :: (es ++ rest.takeWhile Char.isDigit), rest.dropWhile Char.isDigit⟩ := by
  have hfraction : ((es ++ rest).head?.map Char.isDigit).getD false = true := by
    obtain ⟨e, es, rfl⟩ := List.exists_cons_of_ne_nil hne
    exact hes e (.head _)
  have hpoint : ('.' :: (es ++ rest)).dropWhile Char.isDigit = '.' :: (es ++ rest) := rfl
  rw [first_of_fraction hfraction, number_of_point hpoint, List.takeWhile_append_of_pos hes,
    List.dropWhile_append_of_pos hes]
  rfl

theorem first_matches_dot : Matches (first '.' cs).kind (first '.' cs).text (first '.' cs).rest := by
  cases hdigit : (cs.head?.map Char.isDigit).getD false with
  | false =>
    rw [first_of_dot hdigit]
    exact .sign (mem_signs_iff.2 (.inr ⟨rfl, rfl⟩))
  | true =>
    have hpoint : ('.' :: cs).dropWhile Char.isDigit = '.' :: cs := rfl
    have hne : cs.takeWhile Char.isDigit ≠ [] := by
      cases cs with
      | nil => exact nomatch hdigit
      | cons d ds =>
        have hd : d.isDigit = true := hdigit
        simp [hd]
    rw [first_of_fraction hdigit, number_of_point hpoint]
    exact .number (.fraction hne (allDigits_takeWhile cs))

theorem first_matches_colon :
    Matches (first ':' cs).kind (first ':' cs).text (first ':' cs).rest := by
  by_cases hcolon : cs.head? = some ':'
  · rw [first_of_colons hcolon]
    exact .colons
  · rw [first_of_colon hcolon]
    refine .unknown (by decide) (by decide) (by decide +kernel) (by decide) fun kind hsign => ?_
    simp [signs] at hsign

theorem textLiteral_matches :
    Matches (textLiteral cs).kind (textLiteral cs).text (textLiteral cs).rest := by
  cases hclose : closeQuote cs with
  | some p =>
    obtain ⟨inner, hinner, hbody, rfl⟩ := closeQuote_eq_some_iff.1 hclose
    rw [textLiteral_of_textBody hinner]
    exact .string hinner
  | none =>
    simp only [textLiteral, hclose]
    refine .unterminated ?_
    rintro inner rest hinner rfl
    rw [closeQuote_of_textBody hinner] at hclose
    cases hclose

theorem first_matches_plain (hc : isBlank c = false) (hplain : ¬ IsSpecial c) :
    Matches (first c cs).kind (first c cs).text (first c cs).rest := by
  rw [first_of_plain hplain]
  split
  next hdigit =>
    rw [number_kind]
    exact .number (numberText_of_digit hdigit)
  next hdigit =>
    split
    next hname => exact .ident hname (List.all_eq_true.1 List.all_takeWhile)
    next hname =>
      have hquote : c ≠ '"' := fun h => hplain (.inr (.inr (.inr h)))
      exact .unknown hc (by simpa using hdigit) (by simpa using hname) hquote
        (not_mem_signs_of_plain hplain)

/-- What is cut from the front of a text is written as tokens of its kind are. -/
theorem first_matches (hc : isBlank c = false) (cs : List Char) :
    Matches (first c cs).kind (first c cs).text (first c cs).rest := by
  by_cases hspecial : IsSpecial c
  · rcases hspecial with hkind | rfl | rfl | rfl
    · obtain ⟨kind, hkind⟩ := Option.isSome_iff_exists.1 hkind
      rw [first_of_char hkind]
      exact .sign (mem_signs_iff.2 (.inl hkind))
    · exact first_matches_dot
    · exact first_matches_colon
    · rw [first_of_quote]
      exact textLiteral_matches
  · exact first_matches_plain hc hspecial

/-! ### No longer token -/

/-- What is cut is at least as long as a beginning of the text that is written as a token of the
given kind, and is of that kind where it is no longer. -/
def Outruns (l : Lexeme) (kind : TokenKind) (text : List Char) : Prop :=
  text.length ≤ l.text.length ∧ (text.length = l.text.length → kind = l.kind)

theorem Outruns.self (rest : List Char) : Outruns ⟨kind, text, rest⟩ kind text :=
  ⟨Nat.le_refl _, fun _ => rfl⟩

/-- What begins with digits begins with a number. -/
theorem first_eq_number {ds more : List Char} (hne : ds ≠ []) (hdigits : AllDigits ds)
    (h : ds ++ more = c :: cs) : first c cs = number (ds ++ more) := by
  obtain ⟨d, ds, rfl⟩ := List.exists_cons_of_ne_nil hne
  have hc : c.isDigit = true := (List.cons.inj h).1 ▸ hdigits d (.head _)
  have hplain : ¬ IsSpecial c := fun hspecial => by simp [(isSpecial_excludes hspecial).1] at hc
  rw [first_of_plain hplain, if_pos hc, h]

/-- A number goes on over all the digits there are, and over the first point. -/
theorem outruns_number (htext : NumberText text) (h : text ++ rest = c :: cs) :
    Outruns (first c cs) .number text := by
  cases htext with
  | whole hne hdigits =>
    have hle := takeWhile_length_le_number (text ++ rest)
    rw [List.takeWhile_append_of_pos hdigits, List.length_append] at hle
    rw [first_eq_number hne hdigits h]
    exact ⟨Nat.le_trans (Nat.le_add_right _ _) hle, fun _ => (number_kind _).symm⟩
  | @pointed ds es hne hdigits hes =>
    rw [List.append_assoc, List.cons_append] at h
    have hpoint : (ds ++ '.' :: (es ++ rest)).dropWhile Char.isDigit = '.' :: (es ++ rest) := by
      rw [List.dropWhile_append_of_pos hdigits]
      rfl
    have htake : (ds ++ '.' :: (es ++ rest)).takeWhile Char.isDigit = ds := by
      rw [List.takeWhile_append_of_pos hdigits]
      exact List.append_nil _
    rw [first_eq_number hne hdigits h, number_of_point hpoint, htake,
      List.takeWhile_append_of_pos hes]
    refine ⟨?_, fun _ => rfl⟩
    simp only [List.length_append, List.length_cons]
    omega
  | fraction hne hdigits =>
    rw [List.cons_append] at h
    obtain ⟨rfl, rfl⟩ := List.cons.inj h
    rw [first_of_point_digits hne hdigits]
    refine ⟨?_, fun _ => rfl⟩
    simp only [List.length_append, List.length_cons]
    omega

theorem outruns_ident (hname : isNameStart c = true) {ds : List Char}
    (hparts : ∀ d ∈ ds, isNamePart d = true) (rest : List Char) :
    Outruns (first c (ds ++ rest)) .ident (c :: ds) := by
  have hplain : ¬ IsSpecial c := fun h => by simp [(isSpecial_excludes h).2] at hname
  have hdigit : ¬ c.isDigit = true := fun h => by simp [isNameStart_of_isDigit h] at hname
  rw [first_of_plain hplain, if_neg hdigit, if_pos hname, List.takeWhile_append_of_pos hparts]
  refine ⟨?_, fun _ => rfl⟩
  simp only [List.length_append, List.length_cons]
  omega

/-- A token of more than one character outruns one of a single character, whatever their kinds. -/
theorem Outruns.of_longer {l : Lexeme} (h : 2 ≤ l.text.length) : Outruns l kind [c] := by
  refine ⟨?_, fun heq => ?_⟩
  · exact Nat.le_of_lt h
  · rw [← heq] at h
    exact absurd h (by simp)

theorem outruns_sign (h : (c, kind) ∈ signs) (rest : List Char) :
    Outruns (first c rest) kind [c] := by
  rcases mem_signs_iff.1 h with hkind | ⟨rfl, rfl⟩
  · rw [first_of_char hkind]
    exact .self rest
  cases hdigit : (rest.head?.map Char.isDigit).getD false with
  | false =>
    rw [first_of_dot hdigit]
    exact .self rest
  | true =>
    -- the point of a number
    cases rest with
    | nil => exact nomatch hdigit
    | cons d ds =>
      have hd : AllDigits [d] := by simpa [AllDigits] using hdigit
      have hcut := first_of_point_digits (List.cons_ne_nil d []) hd ds
      rw [List.singleton_append] at hcut
      rw [hcut]
      exact .of_longer (by simp)

theorem outruns_unknown (hdigit : c.isDigit = false) (hname : isNameStart c = false)
    (hquote : c ≠ '"') (hsign : ∀ kind, (c, kind) ∉ signs) (rest : List Char) :
    Outruns (first c rest) .unknown [c] := by
  by_cases hcolon : c = ':'
  · subst hcolon
    by_cases hcolons : rest.head? = some ':'
    · rw [first_of_colons hcolons]
      exact .of_longer (by simp)
    · rw [first_of_colon hcolons]
      exact .self rest
  · have hplain : ¬ IsSpecial c := by
      rintro (hkind | rfl | rfl | rfl)
      · obtain ⟨kind, hkind⟩ := Option.isSome_iff_exists.1 hkind
        exact hsign kind (mem_signs_iff.2 (.inl hkind))
      · exact hsign .dot (mem_signs_iff.2 (.inr ⟨rfl, rfl⟩))
      · exact hcolon rfl
      · exact hquote rfl
    rw [first_of_plain hplain, hdigit, hname]
    exact .self rest

theorem outruns_of_matches_cons {ds : List Char} (h : Matches kind (c :: ds) rest) :
    Outruns (first c (ds ++ rest)) kind (c :: ds) := by
  cases h with
  | number htext => exact outruns_number htext rfl
  | ident hname hparts => exact outruns_ident hname hparts rest
  | string hinner =>
    rw [first_of_quote, List.append_assoc, List.singleton_append, textLiteral_of_textBody hinner]
    exact .self rest
  | unterminated hopen =>
    have hclose : closeQuote ds = none := by
      refine Option.eq_none_iff_forall_ne_some.2 fun p hp => ?_
      obtain ⟨inner, hinner, -, hds⟩ := closeQuote_eq_some_iff.1 hp
      exact hopen inner p.2 hinner hds
    rw [List.append_nil, first_of_quote]
    simp only [textLiteral, hclose]
    exact .self []
  | sign hsign => exact outruns_sign hsign rest
  | colons =>
    rw [List.singleton_append, first_of_colons rfl]
    exact .self rest
  | unknown _ hdigit hname hquote hsign => exact outruns_unknown hdigit hname hquote hsign rest

/-- Of the beginnings of a text that are written as tokens, the longest one is cut. -/
theorem outruns_of_matches (h : Matches kind text rest) (hcs : text ++ rest = c :: cs) :
    Outruns (first c cs) kind text := by
  cases text with
  | nil =>
    have hpos := List.length_pos_iff.2 (first_text_ne_nil c cs)
    exact ⟨Nat.zero_le _, fun heq => absurd heq (Nat.ne_of_lt hpos)⟩
  | cons d ds =>
    rw [List.cons_append] at hcs
    obtain ⟨rfl, rfl⟩ := List.cons.inj hcs
    exact outruns_of_matches_cons h

end

end Lexeme

/-! ### The tokens of a text -/

namespace Token

variable {t : Token}

/-- A token is cut from the text that begins where it stands. -/
theorem exists_first_of_mem_lexFrom {offset : Nat} {cs : List Char} (h : t ∈ lexFrom offset cs) :
    ∃ before c rest, cs = before ++ c :: rest ∧ isBlank c = false ∧
      t = ⟨(Lexeme.first c rest).kind, String.ofList (Lexeme.first c rest).text,
        ⟨offset + byteLength before,
          offset + byteLength before + byteLength (Lexeme.first c rest).text⟩⟩ := by
  fun_induction lexFrom offset cs with
  | case1 => cases h
  | case2 offset c cs _ ih =>
    obtain ⟨before, d, rest, rfl, hd, rfl⟩ := ih h
    refine ⟨c :: before, d, rest, rfl, hd, ?_⟩
    rw [Text.byteLength_cons, ← Nat.add_assoc]
  | case3 offset c cs hc lexeme stop ih =>
    have hc : isBlank c = false := by simpa using hc
    rcases List.mem_cons.1 h with rfl | h
    · exact ⟨[], c, cs, rfl, hc, rfl⟩
    · obtain ⟨before, d, rest, hrest, hd, rfl⟩ := ih h
      refine ⟨lexeme.text ++ before, d, rest, ?_, hd, ?_⟩
      · rw [List.append_assoc, ← hrest, Lexeme.first_text_append_rest]
      · rw [Text.byteLength_append, ← Nat.add_assoc]

/-- The text of a token is cut into that token. -/
theorem tokenize_first {c : Char} {cs : List Char} (hc : isBlank c = false) :
    tokenize (String.ofList (Lexeme.first c cs).text) =
      [⟨(Lexeme.first c cs).kind, String.ofList (Lexeme.first c cs).text,
          ⟨0, byteLength (Lexeme.first c cs).text⟩⟩,
        atEnd (byteLength (Lexeme.first c cs).text)] := by
  have hend : BlankFirst [] := nofun
  obtain ⟨tail, htext, hcut⟩ := Lexeme.first_recut c cs hend fun _ => rfl
  rw [List.append_nil] at hcut
  rw [tokenize, lex, String.toList_ofList, htext, lexFrom_of_not_blank hc, hcut, ← htext, lexFrom]
  simp

/-- The longest token is cut. What is left of a text where a token stands begins with the text of
the token, which is written as tokens of its kind are and as those of no other kind. No longer
beginning is written as a token of any kind. A number has a digit, and every token but the one at
the end is the only token of its own text. -/
theorem maximal_munch (source : String) (t : Token) (ht : t ∈ tokenize source) :
    ∃ rest, Text.dropBytes t.span.start source.toList = some (t.text.toList ++ rest) ∧
      Lexeme.Matches t.kind t.text.toList rest ∧
      (∀ kind, Lexeme.Matches kind t.text.toList rest → kind = t.kind) ∧
      (∀ kind text behind, text ++ behind = t.text.toList ++ rest →
        Lexeme.Matches kind text behind → text.length ≤ t.text.toList.length) ∧
      (t.kind = .number → ∃ d ∈ t.text.toList, d.isDigit = true) ∧
      (t.kind ≠ .eof → tokenize t.text =
        [⟨t.kind, t.text, ⟨0, byteLength t.text.toList⟩⟩, atEnd (byteLength t.text.toList)]) := by
  rcases List.mem_append.1 ht with ht | ht
  · obtain ⟨before, c, cs, hsource, hc, rfl⟩ := exists_first_of_mem_lexFrom ht
    have hcut := Lexeme.first_text_append_rest c cs
    have hmatches := Lexeme.first_matches hc cs
    refine ⟨(Lexeme.first c cs).rest, ?_⟩
    simp only [String.toList_ofList, Nat.zero_add]
    rw [hcut]
    refine ⟨?_, hmatches, ?_, ?_, ?_, fun _ => tokenize_first hc⟩
    · rw [hsource, Text.dropBytes_append]
    · exact fun kind h => (Lexeme.outruns_of_matches h hcut).2 rfl
    · exact fun kind text behind hbehind h => (Lexeme.outruns_of_matches h hbehind).1
    · intro hkind
      rw [hkind] at hmatches
      exact hmatches.numberText.exists_digit
  · rw [List.mem_singleton.1 ht]
    have hend := Text.dropBytes_append source.toList []
    rw [List.append_nil] at hend
    refine ⟨[], hend, .eof, ?_, ?_, nofun, fun h => absurd rfl h⟩
    · intro kind h
      exact Lexeme.Matches.eq_eof_of_nil h
    · intro kind text behind hbehind _
      rw [(List.append_eq_nil_iff.1 hbehind).1]
      exact Nat.le_refl _

theorem maximal_munch_number :
    (⟨.number, "1.", ⟨1, 3⟩⟩ : Token) ∈ tokenize " 1..5" ∧
    (∀ kind text behind, text ++ behind = "1..5".toList → Lexeme.Matches kind text behind →
      text.length ≤ 2) ∧
    tokenize "1." = [⟨.number, "1.", ⟨0, 2⟩⟩, atEnd 2] := by
  have ht : (⟨.number, "1.", ⟨1, 3⟩⟩ : Token) ∈ tokenize " 1..5" := by decide +kernel
  obtain ⟨rest, hdrop, -, -, hlongest, -, hagain⟩ := maximal_munch " 1..5" _ ht
  have hrest : "1..5".toList = "1.".toList ++ rest := Option.some.inj hdrop
  refine ⟨ht, fun kind text behind hbehind => ?_, hagain nofun⟩
  exact hlongest kind text behind (hbehind.trans hrest)

end Token

end EventSheet
