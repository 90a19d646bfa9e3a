import EventSheet.Proofs.Lexing.Positions

/-!
# Cutting loses nothing

The tokens of a text stand in it one behind the other, each where its own text is, and all that they
leave out is blank. So the text can be put together again from its tokens and from the gaps before
them: `Token.tokenize_lossless`.
-/

namespace EventSheet

open Text (byteLength)

/-- Where a list that is put together of two is split at a member, the member is in one of them. -/
theorem exists_of_append_eq_append_cons {α : Type} {xs ys before after : List α} {x : α}
    (h : xs ++ ys = before ++ x :: after) :
    (∃ more, xs = before ++ x :: more) ∨ ∃ more, before = xs ++ more ∧ ys = more ++ x :: after := by
  rcases List.append_eq_append_iff.1 h with ⟨more, hbefore, hys⟩ | ⟨more, hxs, hafter⟩
  · exact .inr ⟨more, hbefore, hys⟩
  · cases more with
    | nil => exact .inr ⟨[], by simp_all, hafter.symm⟩
    | cons y more =>
      obtain ⟨rfl, -⟩ := List.cons.inj hafter
      exact .inl ⟨more, hxs⟩

namespace Token

/-- What a text has before each of some tokens, where the first gap begins at an offset. -/
def gaps (text : List Char) : Nat → List Token → List (List Char)
  | _, [] => []
  | offset, t :: ts =>
    ((Span.mk offset t.span.start).cut? text).getD [] :: gaps text t.span.stop ts

/-- Gaps and the texts of tokens in turn. -/
def interleave : List (List Char) → List Token → List Char
  | gap :: gaps, t :: ts => gap ++ (t.text.toList ++ interleave gaps ts)
  | _, _ => []

/-! ### What is laid out in a text -/

section

variable {offset : Nat} {cs : List Char} {ts : List Token}

/-- A token is some of the text, and its span is where it stands. -/
theorem Laid.exists_parts (h : Laid offset cs ts) {t : Token} (ht : t ∈ ts) :
    ∃ before text after, cs = before ++ (text ++ after) ∧ text ≠ [] ∧ t.text = String.ofList text ∧
      t.span = ⟨offset + byteLength before, offset + byteLength before + byteLength text⟩ := by
  induction h with
  | blanks => exact nomatch ht
  | @token offset gap text rest u ts _ htext hspelled hspan _ ih =>
    rcases List.mem_cons.1 ht with rfl | ht
    · exact ⟨gap, text, rest, rfl, htext, hspelled, hspan⟩
    · obtain ⟨before, word, after, rfl, hword, hspelled', hspan'⟩ := ih ht
      refine ⟨gap ++ (text ++ before), word, after, by simp, hword, hspelled', ?_⟩
      rw [hspan', hspan]
      simp only [Text.byteLength_append, Nat.add_assoc]

/-- Tokens take some of the text each. -/
theorem Laid.bounds (h : Laid offset cs ts) {t : Token} (ht : t ∈ ts) :
    offset ≤ t.span.start ∧ t.span.start < t.span.stop ∧
      t.span.stop ≤ offset + byteLength cs := by
  obtain ⟨before, text, after, rfl, htext, -, hspan⟩ := h.exists_parts ht
  have hpos := Text.byteLength_pos htext
  simp only [hspan, Text.byteLength_append]
  omega

theorem Laid.text_ne_empty (h : Laid offset cs ts) {t : Token} (ht : t ∈ ts) : t.text ≠ "" := by
  obtain ⟨before, text, after, -, htext, hspelled, -⟩ := h.exists_parts ht
  rw [hspelled]
  exact fun hnil => htext (String.ofList_injective hnil)

theorem Laid.pairwise (h : Laid offset cs ts) :
    ts.Pairwise fun t u => t.span.stop ≤ u.span.start := by
  induction h with
  | blanks => exact .nil
  | token _ _ _ _ hrest ih => exact .cons (fun u hu => (hrest.bounds hu).1) ih

/-- A token has the text that its span covers. -/
theorem Laid.cut?_eq (h : Laid 0 cs ts) {t : Token} (ht : t ∈ ts) :
    t.span.Fits cs ∧ t.span.cut? cs = some t.text.toList := by
  obtain ⟨before, text, after, rfl, -, hspelled, hspan⟩ := h.exists_parts ht
  rw [Nat.zero_add] at hspan
  rw [hspan, hspelled, String.toList_ofList]
  refine ⟨.of_boundaries (Nat.le_add_right _ _) ⟨before, _, rfl, rfl⟩ ?_,
    Span.cut?_append before text after⟩
  exact ⟨before ++ text, after, (List.append_assoc _ _ _).symm, Text.byteLength_append _ _⟩

/-- A character of the text is a blank or lies within a token. -/
theorem Laid.covered (h : Laid offset cs ts) {before after : List Char} {c : Char}
    (hcs : cs = before ++ c :: after) :
    isBlank c = true ∨ ∃ t ∈ ts, t.span.start ≤ offset + byteLength before ∧
      offset + byteLength before + c.utf8Size ≤ t.span.stop := by
  induction h generalizing before with
  | blanks hgap => exact .inl (hgap c (by simp [hcs]))
  | @token offset gap text rest t ts hgap _ _ hspan _ ih =>
    rcases exists_of_append_eq_append_cons hcs with ⟨more, rfl⟩ | ⟨before, rfl, hbehind⟩
    · exact .inl (hgap c (by simp))
    rcases exists_of_append_eq_append_cons hbehind with ⟨more, rfl⟩ | ⟨before, rfl, hrest⟩
    · refine .inr ⟨t, .head _, ?_⟩
      simp only [hspan, Text.byteLength_append, Text.byteLength_cons]
      omega
    · rcases ih hrest with hblank | ⟨u, hu, hstart, hstop⟩
      · exact .inl hblank
      · refine .inr ⟨u, .tail _ hu, ?_⟩
        rw [hspan] at hstart hstop
        simp only [Text.byteLength_append]
        dsimp only at hstart hstop
        omega

/-- The gaps between tokens are blank, and with the tokens they make up the text. -/
theorem Laid.rebuilt (h : Laid offset cs ts) {before : List Char}
    (hbefore : byteLength before = offset) :
    (∀ gap ∈ gaps (before ++ cs) offset (ts ++ [atEnd (byteLength (before ++ cs))]),
      AllBlank gap) ∧
    interleave (gaps (before ++ cs) offset (ts ++ [atEnd (byteLength (before ++ cs))]))
      (ts ++ [atEnd (byteLength (before ++ cs))]) = cs := by
  induction h generalizing before with
  | @blanks offset gap hgap =>
    have hcut : Span.cut? ⟨offset, byteLength before + byteLength gap⟩ (before ++ gap) =
        some gap := by
      rw [← hbefore, ← List.append_nil gap]
      simpa using Span.cut?_append before gap []
    simp [gaps, interleave, atEnd, Span.point, hcut, hgap]
  | @token offset gap text rest t ts hgap _ hspelled hspan _ ih =>
    have hcut : Span.cut? ⟨offset, t.span.start⟩ (before ++ (gap ++ (text ++ rest))) =
        some gap := by
      rw [hspan, ← hbefore]
      exact Span.cut?_append before gap (text ++ rest)
    have hstop : byteLength (before ++ (gap ++ text)) = t.span.stop := by
      rw [hspan, Text.byteLength_append, Text.byteLength_append, hbefore, Nat.add_assoc]
    have hassoc : before ++ (gap ++ text) ++ rest = before ++ (gap ++ (text ++ rest)) := by
      simp only [List.append_assoc]
    obtain ⟨hblank, hrest⟩ := ih hstop
    rw [hassoc] at hblank hrest
    rw [List.cons_append, gaps, interleave, hcut, hrest, hspelled, String.toList_ofList]
    refine ⟨?_, rfl⟩
    intro g hg
    rcases List.mem_cons.1 hg with rfl | hg
    · exact hgap
    · exact hblank g hg

end

/-! ### Whole texts -/

/-- Cutting a text into tokens loses nothing. The tokens run forward through the text without
overlapping, and each has the text that its span covers. All of them but the last are written and
stand for no end, and the last stands at the end of the text. Every character that no token covers
is a blank, so that the tokens and the gaps before them make up the text. -/
theorem tokenize_lossless (source : String) :
    (∃ ts, tokenize source = ts ++ [⟨.eof, "", Span.point (byteLength source.toList)⟩] ∧
      ∀ t ∈ ts, t.kind ≠ .eof ∧ t.text ≠ "" ∧ t.span.start < t.span.stop) ∧
    (tokenize source).Pairwise (fun t u => t.span.stop ≤ u.span.start) ∧
    (∀ t ∈ tokenize source, t.span.Fits source.toList ∧ t.span.slice source = t.text) ∧
    (∀ before c after, source.toList = before ++ c :: after →
      isBlank c = true ∨ ∃ t ∈ tokenize source, t.span.start ≤ byteLength before ∧
        byteLength before + c.utf8Size ≤ t.span.stop) ∧
    (∀ gap ∈ gaps source.toList 0 (tokenize source), AllBlank gap) ∧
    interleave (gaps source.toList 0 (tokenize source)) (tokenize source) = source.toList := by
  have hlaid : Laid 0 source.toList (lex source) := lexFrom_laid 0 source.toList
  have hbefore : byteLength [] = 0 := rfl
  refine ⟨⟨lex source, rfl, ?_⟩, ?_, ?_, ?_, hlaid.rebuilt hbefore⟩
  · intro t ht
    exact ⟨kind_ne_eof_of_mem_lexFrom ht, hlaid.text_ne_empty ht, (hlaid.bounds ht).2.1⟩
  · refine List.pairwise_append.2 ⟨hlaid.pairwise, List.pairwise_singleton _ _, ?_⟩
    intro t ht u hu
    rw [List.mem_singleton.1 hu]
    simpa [atEnd, Span.point] using (hlaid.bounds ht).2.2
  · intro t ht
    rcases List.mem_append.1 ht with ht | ht
    · obtain ⟨hfits, hcut⟩ := hlaid.cut?_eq ht
      exact ⟨hfits, by rw [Span.slice, hcut, Option.getD_some, String.ofList_toList]⟩
    · rw [List.mem_singleton.1 ht]
      have hend : Text.IsBoundary source.toList (byteLength source.toList) :=
        ⟨source.toList, [], (List.append_nil _).symm, rfl⟩
      have hcut : (Span.point (byteLength source.toList)).cut? source.toList = some [] := by
        simpa [Span.point] using Span.cut?_append source.toList [] []
      exact ⟨.point hend, by simp [atEnd, Span.slice, hcut]⟩
  · intro before c after hsource
    rcases hlaid.covered hsource with hblank | ⟨t, ht, hstart, hstop⟩
    · exact .inl hblank
    · rw [Nat.zero_add] at hstart hstop
      exact .inr ⟨t, List.mem_append_left _ ht, hstart, hstop⟩

end Token

end EventSheet
