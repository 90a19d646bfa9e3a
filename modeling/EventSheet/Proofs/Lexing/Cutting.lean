import EventSheet.Proofs.Lexing.Lossless
import EventSheet.Proofs.Lexing.Spacing

/-!
# Cutting at a gap

Cutting a token looks at the characters behind it only to see where it ends. So a text that is
parted between two tokens has the tokens before the gap in its first part and those behind the gap
in its second one: `Token.lexFrom_parts`. A character that makes a token on its own adds no more
than this token to the text before it: `Token.lexFrom_append_char`. And where a text begins decides
nothing but where its tokens stand: `Token.lexFrom_shift`.
-/

namespace EventSheet

open Text (byteLength)

/-! ### Single tokens -/

namespace Lexeme

section

variable {p : Char → Bool} {c : Char} {xs ys : List Char}

/-- A run that ends in the first part of a text is the run of that part. -/
theorem run_append (h : ((xs ++ ys).takeWhile p).length ≤ xs.length) :
    (xs ++ ys).takeWhile p = xs.takeWhile p ∧ (xs ++ ys).dropWhile p = xs.dropWhile p ++ ys := by
  induction xs with
  | nil =>
    have hnone : ys.takeWhile p = [] := List.eq_nil_of_length_eq_zero (Nat.le_zero.1 h)
    have hsplit := List.takeWhile_append_dropWhile (p := p) (l := ys)
    rw [hnone, List.nil_append] at hsplit
    exact ⟨hnone, hsplit⟩
  | cons x xs ih =>
    cases hx : p x with
    | false => simp [hx]
    | true =>
      obtain ⟨htake, hdrop⟩ := ih (by simpa [hx] using h)
      simp [hx, htake, hdrop]

theorem number_append (h : (number (xs ++ ys)).text.length ≤ xs.length) :
    number (xs ++ ys) = ⟨.number, (number xs).text, (number xs).rest ++ ys⟩ := by
  obtain ⟨htake, hdrop⟩ := run_append (Nat.le_trans (takeWhile_length_le_number (xs ++ ys)) h)
  have hlen := congrArg List.length (List.takeWhile_append_dropWhile (p := Char.isDigit) (l := xs))
  rw [List.length_append] at hlen
  cases hrest : xs.dropWhile Char.isDigit with
  | nil =>
    -- a point behind the first part would belong to the number
    rw [hrest, List.nil_append] at hdrop
    have hpoint : ∀ ds, ys ≠ '.' :: ds := by
      rintro ds rfl
      rw [number_of_point hdrop, htake] at h
      simp only [hrest, List.length_append, List.length_cons, List.length_nil] at h hlen
      omega
    rw [number_of_no_point (by rw [hdrop]; exact hpoint), number_of_no_point (by simp [hrest]),
      htake, hdrop, hrest]
    rfl
  | cons d ds =>
    rw [hrest, List.cons_append] at hdrop
    by_cases hd : d = '.'
    · subst hd
      rw [number_of_point hdrop, htake] at h
      simp only [hrest, List.length_append, List.length_cons] at h hlen
      have htaken : ((ds ++ ys).takeWhile Char.isDigit).length ≤ ds.length := by omega
      obtain ⟨hfraction, hbehind⟩ := run_append htaken
      rw [number_of_point hdrop, number_of_point hrest, htake, hfraction, hbehind]
    · have hpoint : ∀ es fs, d :: es ≠ '.' :: fs := fun es fs heq => hd (List.cons.inj heq).1
      rw [number_of_no_point (by rw [hdrop]; exact hpoint _),
        number_of_no_point (by rw [hrest]; exact hpoint _), htake, hdrop, hrest]
      rfl

theorem textLiteral_append (h : (textLiteral (xs ++ ys)).text.length ≤ xs.length + 1) :
    textLiteral (xs ++ ys) =
      ⟨(textLiteral xs).kind, (textLiteral xs).text, (textLiteral xs).rest ++ ys⟩ := by
  cases hclose : closeQuote (xs ++ ys) with
  | some p =>
    have hcut : textLiteral (xs ++ ys) = ⟨.string, '"' :: p.1, p.2⟩ := by
      simp only [textLiteral, hclose]
    rw [hcut] at h ⊢
    have hparts : p.1 ++ p.2 = xs ++ ys := closeQuote_append hclose
    obtain ⟨zs, hxs, hrest⟩ : ∃ zs, xs = p.1 ++ zs ∧ p.2 = zs ++ ys := by
      rcases List.append_eq_append_iff.1 hparts with ⟨zs, hxs, hrest⟩ | ⟨zs, hbody, hys⟩
      · exact ⟨zs, hxs, hrest⟩
      · have hnil : zs = [] := by
          rw [hbody, List.length_cons, List.length_append] at h
          exact List.eq_nil_of_length_eq_zero (by omega)
        subst hnil
        exact ⟨[], by simpa using hbody.symm, by simpa using hys.symm⟩
    have hcut' : textLiteral xs = ⟨.string, '"' :: p.1, zs⟩ := by
      simp only [textLiteral, hxs, closeQuote_respaced hclose]
    rw [hcut', hrest]
  | none =>
    have hcut : textLiteral (xs ++ ys) = ⟨.unterminatedString, '"' :: (xs ++ ys), []⟩ := by
      simp only [textLiteral, hclose]
    rw [hcut, List.length_cons, List.length_append] at h
    have hnil : ys = [] := List.eq_nil_of_length_eq_zero (by omega)
    rw [hnil, List.append_nil] at hcut ⊢
    rw [hcut]
    rfl

/-- Whether a token that ends in the first part of a text is cut from that part alone. -/
def Parted (c : Char) (xs ys : List Char) : Prop :=
  (first c (xs ++ ys)).text.length ≤ xs.length + 1 →
    first c (xs ++ ys) = ⟨(first c xs).kind, (first c xs).text, (first c xs).rest ++ ys⟩

theorem parted_dot : Parted '.' xs ys := by
  intro h
  cases hdigit : ((xs ++ ys).head?.map Char.isDigit).getD false with
  | false =>
    have hdigit' : (xs.head?.map Char.isDigit).getD false = false := by
      cases xs with
      | nil => rfl
      | cons => exact hdigit
    rw [first_of_dot hdigit, first_of_dot hdigit']
  | true =>
    rw [first_of_fraction hdigit] at h ⊢
    have hcut : number ('.' :: xs ++ ys) =
        ⟨.number, (number ('.' :: xs)).text, (number ('.' :: xs)).rest ++ ys⟩ := number_append h
    cases xs with
    | nil =>
      -- the digit that begins the second part would belong to the token
      obtain ⟨d, ds, rfl⟩ : ∃ d ds, ys = d :: ds := by
        cases ys with
        | nil => exact nomatch hdigit
        | cons d ds => exact ⟨d, ds, rfl⟩
      have hd : d.isDigit = true := hdigit
      have hpoint : ('.' :: d :: ds).dropWhile Char.isDigit = '.' :: d :: ds := rfl
      rw [List.nil_append, number_of_point hpoint] at h
      simp [hd] at h
    | cons d ds =>
      have hdigit' : ((d :: ds).head?.map Char.isDigit).getD false = true := hdigit
      rw [first_of_fraction hdigit', number_kind]
      exact hcut

theorem parted_colon : Parted ':' xs ys := by
  intro h
  by_cases hcolon : (xs ++ ys).head? = some ':'
  · rw [first_of_colons hcolon] at h ⊢
    cases xs with
    | nil => simp at h
    | cons x xs =>
      have hcolon' : (x :: xs).head? = some ':' := hcolon
      rw [first_of_colons hcolon']
      rfl
  · have hcolon' : xs.head? ≠ some ':' := by
      cases xs with
      | nil => exact nofun
      | cons => exact hcolon
    rw [first_of_colon hcolon, first_of_colon hcolon']

theorem parted_plain (hplain : ¬ IsSpecial c) : Parted c xs ys := by
  intro h
  rw [first_of_plain hplain] at h ⊢
  rw [first_of_plain hplain]
  split at h
  next hdigit =>
    rw [if_pos hdigit, if_pos hdigit, number_kind]
    have hcut : number (c :: xs ++ ys) =
        ⟨.number, (number (c :: xs)).text, (number (c :: xs)).rest ++ ys⟩ := number_append h
    exact hcut
  next hdigit =>
    rw [if_neg hdigit, if_neg hdigit]
    split at h
    next hname =>
      obtain ⟨htake, hdrop⟩ := run_append (p := isNamePart) (Nat.le_of_succ_le_succ h)
      rw [if_pos hname, if_pos hname, htake, hdrop]
    next hname => rw [if_neg hname, if_neg hname]

/-- A token that ends in the first part of a text is cut from that part alone. -/
theorem parted (c : Char) (xs ys : List Char) : Parted c xs ys := by
  by_cases hspecial : IsSpecial c
  · rcases hspecial with hkind | rfl | rfl | rfl
    · obtain ⟨kind, hkind⟩ := Option.isSome_iff_exists.1 hkind
      intro _
      rw [first_of_char hkind, first_of_char hkind]
    · exact parted_dot
    · exact parted_colon
    · intro h
      rw [first_of_quote] at h ⊢
      rw [first_of_quote]
      exact textLiteral_append h
  · exact parted_plain hspecial

end

end Lexeme

/-! ### Texts in two parts -/

/-- Of two beginnings of a text the one of fewer bytes begins the other one. -/
theorem Text.prefix_of_byteLength_le {us vs xs ys : List Char} (h : us ++ vs = xs ++ ys)
    (hle : byteLength us ≤ byteLength xs) : us <+: xs := by
  rcases List.append_eq_append_iff.1 h with ⟨zs, hxs, -⟩ | ⟨zs, rfl, -⟩
  · exact ⟨zs, hxs.symm⟩
  · cases zs with
    | nil => exact ⟨[], by simp⟩
    | cons z zs =>
      have hpos := Text.byteLength_pos (List.cons_ne_nil z zs)
      rw [Text.byteLength_append] at hle
      omega

/-- The span as many bytes further on. -/
def Span.shift (k : Nat) (s : Span) : Span := ⟨s.start + k, s.stop + k⟩

/-- The token as many bytes further on. -/
def Token.shift (k : Nat) (t : Token) : Token := ⟨t.kind, t.text, t.span.shift k⟩

namespace Token

/-- A text that is parted between two of its tokens has the tokens before the gap in its first part
and those behind the gap in its second one. -/
theorem lexFrom_parts {offset : Nat} {xs ys : List Char} {us vs : List Token}
    (h : lexFrom offset (xs ++ ys) = us ++ vs)
    (hbefore : ∀ u ∈ us, u.span.stop ≤ offset + byteLength xs)
    (hbehind : ∀ v ∈ vs, offset + byteLength xs ≤ v.span.start) :
    lexFrom offset xs = us ∧ lexFrom (offset + byteLength xs) ys = vs := by
  induction hlen : xs.length using Nat.strongRecOn generalizing offset xs us with
  | ind n ih =>
  cases xs with
  | nil =>
    have hlaid := lexFrom_laid offset ([] ++ ys)
    rw [h] at hlaid
    have hus : us = [] := by
      refine List.eq_nil_iff_forall_not_mem.2 fun u hu => ?_
      have hbounds := hlaid.bounds (List.mem_append_left vs hu)
      have hstop := hbefore u hu
      rw [Text.byteLength_nil] at hstop
      omega
    subst hus
    exact ⟨by rw [lexFrom], h⟩
  | cons c xs =>
    have hbytes : offset + byteLength (c :: xs) = offset + c.utf8Size + byteLength xs := by
      rw [Text.byteLength_cons, Nat.add_assoc]
    by_cases hblank : isBlank c = true
    · rw [List.cons_append, lexFrom, if_pos hblank] at h
      rw [lexFrom, if_pos hblank, hbytes]
      rw [hbytes] at hbefore hbehind
      exact ih xs.length (by simp [← hlen]) h hbefore hbehind rfl
    rw [List.cons_append, lexFrom, if_neg hblank] at h
    dsimp only at h
    cases us with
    | nil =>
      rw [List.nil_append] at h
      have hstart := hbehind _ (h ▸ List.mem_cons_self)
      have hc := c.utf8Size_pos
      dsimp only at hstart
      omega
    | cons t us =>
      obtain ⟨htoken, hrest⟩ := List.cons.inj h
      have hstop : byteLength (Lexeme.first c (xs ++ ys)).text ≤ byteLength (c :: xs) := by
        have hstop := hbefore t (.head _)
        rw [← htoken] at hstop
        dsimp only at hstop
        omega
      have hcut := Lexeme.first_text_append_rest c (xs ++ ys)
      rw [← List.cons_append] at hcut
      have hparted := Lexeme.parted c xs ys (Text.prefix_of_byteLength_le hcut hstop).length_le
      have hbytes' : offset + byteLength (Lexeme.first c xs).text +
          byteLength (Lexeme.first c xs).rest = offset + byteLength (c :: xs) := by
        rw [Nat.add_assoc, ← Text.byteLength_append, Lexeme.first_text_append_rest]
      rw [hparted] at htoken hrest
      have hshorter : (Lexeme.first c xs).rest.length < n := by
        rw [← hlen, List.length_cons]
        exact Nat.lt_succ_of_le (Lexeme.first_rest_length c xs)
      obtain ⟨hxs, hys⟩ := ih _ hshorter hrest
        (fun u hu => hbytes' ▸ hbefore u (.tail _ hu)) (hbytes' ▸ hbehind) rfl
      rw [lexFrom, if_neg hblank]
      exact ⟨by rw [← htoken, ← hxs], hbytes' ▸ hys⟩

/-- Where a text begins decides nothing but where its tokens stand. -/
theorem lexFrom_shift (k offset : Nat) (cs : List Char) :
    lexFrom (offset + k) cs = (lexFrom offset cs).map (Token.shift k) := by
  fun_induction lexFrom offset cs with
  | case1 offset => rw [lexFrom, List.map_nil]
  | case2 offset c cs hc ih =>
    rw [lexFrom, if_pos hc, ← ih, Nat.add_right_comm]
  | case3 offset c cs hc lexeme stop ih =>
    have hstop : offset + k + byteLength lexeme.text = stop + k := Nat.add_right_comm _ _ _
    rw [lexFrom, if_neg hc, List.map_cons, ← ih]
    dsimp only
    rw [hstop]
    rfl

end Token

/-! ### A character behind a text -/

namespace Lexeme

section

variable {c d : Char} {kind : TokenKind} {xs : List Char}

/-- A character that makes a token on its own belongs to no token of more than one character, text
literals aside. -/
theorem parts_of_char (h : TokenKind.ofChar? d = some kind) :
    d.isDigit = false ∧ isNamePart d = false ∧ d ≠ '.' ∧ d ≠ ':' := by
  unfold TokenKind.ofChar? at h
  split at h <;> first | decide +kernel | exact nomatch h

/-- A run of characters ends before a character that does not belong to it. -/
theorem run_append_of_not {p : Char → Bool} (hd : p d = false) (xs ys : List Char) :
    (xs ++ d :: ys).takeWhile p = xs.takeWhile p ∧
      (xs ++ d :: ys).dropWhile p = xs.dropWhile p ++ d :: ys := by
  induction xs with
  | nil => simp [hd]
  | cons x xs ih =>
    cases hx : p x with
    | false => simp [hx]
    | true => simp [hx, ih]

theorem number_append_of_not (hdigit : d.isDigit = false) (hpoint : d ≠ '.') (xs ys : List Char) :
    number (xs ++ d :: ys) = ⟨.number, (number xs).text, (number xs).rest ++ d :: ys⟩ := by
  obtain ⟨htake, hdrop⟩ := run_append_of_not hdigit xs ys
  by_cases h : ∃ ds, xs.dropWhile Char.isDigit = '.' :: ds
  · obtain ⟨ds, hds⟩ := h
    obtain ⟨hfraction, hbehind⟩ := run_append_of_not hdigit ds ys
    rw [hds, List.cons_append] at hdrop
    rw [number_of_point hdrop, number_of_point hds, htake, hfraction, hbehind]
  · have hno : ∀ ds, xs.dropWhile Char.isDigit ≠ '.' :: ds := fun ds hds => h ⟨ds, hds⟩
    rw [number_of_no_point hno, number_of_no_point, htake, hdrop]
    intro ds hds
    rw [hdrop] at hds
    cases hrest : xs.dropWhile Char.isDigit with
    | nil =>
      rw [hrest] at hds
      exact hpoint (List.cons.inj hds).1
    | cons x rest =>
      rw [hrest] at hds
      exact hno rest (by rw [hrest, (List.cons.inj hds).1])

theorem textLiteral_append_of_closed (h : (textLiteral xs).kind ≠ .unterminatedString)
    (ys : List Char) :
    textLiteral (xs ++ ys) =
      ⟨(textLiteral xs).kind, (textLiteral xs).text, (textLiteral xs).rest ++ ys⟩ := by
  cases hclose : closeQuote xs with
  | none => exact absurd (by simp only [textLiteral, hclose]) h
  | some p =>
    obtain ⟨inner, hinner, hbody, rfl⟩ := closeQuote_eq_some_iff.1 hclose
    rw [textLiteral_of_textBody hinner, List.append_assoc, List.cons_append,
      textLiteral_of_textBody hinner]

/-- Before a character that makes a token on its own every token ends that has its closing quote. -/
theorem first_append_of_char (hd : TokenKind.ofChar? d = some kind)
    (hclosed : (first c xs).kind ≠ .unterminatedString) (ys : List Char) :
    first c (xs ++ d :: ys) =
      ⟨(first c xs).kind, (first c xs).text, (first c xs).rest ++ d :: ys⟩ := by
  obtain ⟨hdigit, hname, hpoint, hcolon⟩ := parts_of_char hd
  by_cases hspecial : IsSpecial c
  · rcases hspecial with hkind | rfl | rfl | rfl
    · obtain ⟨kind, hkind⟩ := Option.isSome_iff_exists.1 hkind
      rw [first_of_char hkind, first_of_char hkind]
    · have hhead : ((xs ++ d :: ys).head?.map Char.isDigit).getD false =
          (xs.head?.map Char.isDigit).getD false := by
        cases xs with
        | nil => exact hdigit
        | cons => rfl
      cases hfraction : (xs.head?.map Char.isDigit).getD false with
      | false => rw [first_of_dot (hhead.trans hfraction), first_of_dot hfraction]
      | true =>
        rw [first_of_fraction (hhead.trans hfraction), first_of_fraction hfraction, number_kind]
        exact number_append_of_not hdigit hpoint ('.' :: xs) ys
    · have hhead : (xs ++ d :: ys).head? = some ':' ↔ xs.head? = some ':' := by
        cases xs with
        | nil => simp [hcolon]
        | cons => rfl
      by_cases hcolons : xs.head? = some ':'
      · rw [first_of_colons (hhead.2 hcolons), first_of_colons hcolons]
        cases xs with
        | nil => exact nomatch hcolons
        | cons => rfl
      · rw [first_of_colon fun h => hcolons (hhead.1 h), first_of_colon hcolons]
    · rw [first_of_quote] at hclosed ⊢
      rw [first_of_quote]
      exact textLiteral_append_of_closed hclosed _
  · rw [first_of_plain hspecial, first_of_plain hspecial]
    split
    · rw [number_kind]
      exact number_append_of_not hdigit hpoint (c :: xs) ys
    · split
      · obtain ⟨htake, hdrop⟩ := run_append_of_not hname xs ys
        rw [htake, hdrop]
      · rfl

end

end Lexeme

namespace Token

/-- A text whose literals are closed has its own tokens before a character that makes a token on its
own. -/
theorem lexFrom_append_char {d : Char} {kind : TokenKind} (hd : TokenKind.ofChar? d = some kind)
    {offset : Nat} {cs : List Char}
    (hclosed : ∀ t ∈ lexFrom offset cs, t.kind ≠ .unterminatedString) :
    lexFrom offset (cs ++ [d]) = lexFrom offset cs ++
      [⟨kind, String.singleton d, ⟨offset + byteLength cs, offset + byteLength cs + 1⟩⟩] := by
  fun_induction lexFrom offset cs with
  | case1 offset =>
    rw [List.nil_append, lexFrom_of_char hd, lexFrom]
    rfl
  | case2 offset c cs hc ih =>
    rw [List.cons_append, lexFrom, if_pos hc, ih hclosed, Text.byteLength_cons, Nat.add_assoc offset]
  | case3 offset c cs hc lexeme stop ih =>
    have hc : isBlank c = false := by simpa using hc
    have hfirst : lexeme.kind ≠ .unterminatedString := hclosed _ (.head _)
    have hlen : stop + byteLength lexeme.rest = offset + byteLength (c :: cs) := by
      rw [Nat.add_assoc, ← Text.byteLength_append, Lexeme.first_text_append_rest]
    rw [List.cons_append, lexFrom_of_not_blank hc, Lexeme.first_append_of_char hd hfirst]
    dsimp only
    rw [ih fun t ht => hclosed t (.tail _ ht), hlen]
    rfl

end Token
end EventSheet
