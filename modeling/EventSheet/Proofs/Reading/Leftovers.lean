import EventSheet.Proofs.Reading.Form
import EventSheet.Proofs.Reading.Nesting
import EventSheet.Proofs.Reading.Placement
import EventSheet.Proofs.Reading.Redundancy

/-!
# What is left behind an expression

The root of a text covers all tokens that were taken, whatever was read, and a last diagnostic
covers those that were left: `parse_keeps`. So nothing of a text is dropped unseen. Where that
diagnostic is the only error, the text before what was left is an expression of its own:
`parse_before_leftover`.
-/

namespace EventSheet

/-! ### Where an expression ends -/

/-- Whether an expression ends at a position or behind it. -/
def Piece.Covers (n : Nat) : Piece → Prop
  | expr e => n ≤ e.span.stop
  | _ => True

section

variable {r p q : Reader} {x : Piece}

theorem Reader.advance_lastEnd_of_kind {k : TokenKind} (h : r.kind = k) (hk : k ≠ .eof) :
    r.advance.lastEnd = r.span.stop :=
  Reader.advance_lastEnd (h ▸ hk)

theorem Heads.lastEnd_eq {callee : Callee} (h : Heads r callee p) :
    p.lastEnd = callee.function.span.stop := by
  cases h with
  | free hk => exact Reader.advance_lastEnd_of_kind hk (by decide)
  | onObject _ _ hk => exact Reader.advance_lastEnd_of_kind hk (by decide)
  | onBehavior _ _ _ _ hk => exact Reader.advance_lastEnd_of_kind hk (by decide)

/-- An expression ends where the last token taken for it does or behind that. -/
theorem Reads.covers (h : Reads r x q) (hr : r.Laid) : x.Covers q.lastEnd := by
  induction h with
  | number hk | string hk | name hk | unterminated hk =>
    exact Nat.le_of_eq (Reader.advance_lastEnd_of_kind hk (by decide))
  | missing => exact hr.lastEnd_le
  | unexpected | tooDeep | unclosed | access => exact Nat.le_max_left _ _
  | group _ _ hclose =>
    rw [Piece.Covers, Expr.span_withSpan, afterGroup_lastEnd,
      Reader.advance_lastEnd_of_kind hclose (by decide)]
    exact Nat.le_max_right _ _
  | signed _ _ ih => exact Nat.le_trans (ih hr.advance) (Nat.le_max_right _ _)
  | operation ha _ _ _ ihc =>
    exact Nat.le_trans (ihc (ha.follows hr).laid.advance) (Nat.le_max_right _ _)
  | emptyCall | call | noFunction => exact Nat.le_refl _
  | bareCall hh => exact Nat.le_trans (Nat.le_of_eq hh.lastEnd_eq) (Nat.le_max_right _ _)
  | lastArgument | argument | noAccessor | noChild | child | index | openIndex => trivial

end

/-! ### The tokens of a text -/

/-- Where the reader stands there begins the first of the tokens to come. -/
theorem Reader.hull_start {r : Reader} (h : r.tokens ≠ []) :
    (Token.hull r.tokens).start = r.span.start := by
  obtain ⟨t, ts, htok⟩ := List.exists_cons_of_ne_nil h
  rw [Reader.span_eq htok, htok, Token.hull_cons_start]

/-- The tokens that were taken end where the last one does or before that. -/
theorem Reader.Leads.stop_le {r r' : Reader} (h : r.Leads r') (horder : Token.InOrder r.tokens)
    {us : List Token} (hus : r.tokens = us ++ r'.tokens) {t : Token} (ht : t ∈ us) :
    t.span.stop ≤ r'.lastEnd := by
  rcases h.lastEnd with ⟨htok, -⟩ | ⟨us', u, htok, hend⟩
  · have hnil : us = [] := List.append_left_eq_self.1 (hus.symm.trans htok.symm)
    subst hnil
    exact nomatch ht
  · have hsplit : us = us' ++ [u] := by
      have hboth : us ++ r'.tokens = (us' ++ [u]) ++ r'.tokens := by
        rw [← hus, htok, List.append_assoc]
        rfl
      exact List.append_cancel_right hboth
    rw [hus, hsplit] at horder
    rw [hsplit] at ht
    rw [hend]
    have hlast := (horder.left.hull_le ht).2
    rwa [Token.hull_append_cons_stop] at hlast

/-- After all tokens reading stands where the last one ends. -/
theorem Reader.skip_lastEnd {r : Reader} (h : r.tokens ≠ []) :
    (Reader.skip r.tokens.length r).lastEnd = (Token.hull r.tokens).stop := by
  have hnil : (Reader.skip r.tokens.length r).tokens = [] := by
    rw [Reader.skip_tokens, List.drop_length]
  rcases (r.skip_leads r.tokens.length).lastEnd with ⟨htok, -⟩ | ⟨us, u, htok, hend⟩
  · exact absurd (htok.symm.trans hnil) h
  · rw [hnil] at htok
    rw [hend, htok, Token.hull_append_cons_stop, Token.hull_singleton]

/-- The token stands within a span. -/
def Token.Inside (t : Token) (s : Span) : Prop := t.span.Within s.start s.stop

section

variable {source : String}

/-- Reading a text takes the tokens that the expression covers and leaves those behind it. -/
theorem readText_parts (h : Token.lex source ≠ []) :
    (readText source).1.span.start = (Token.hull (Token.lex source)).start ∧
    ∃ taken, Token.lex source = taken ++ (readText source).2.tokens ∧
      (∀ t ∈ taken, t.Inside (readText source).1.span) ∧
      ∀ t ∈ (readText source).2.tokens, (readText source).1.span.stop ≤ t.span.start := by
  have hreads : Reads _ (.expr (readText source).1) (readText source).2 :=
    expression_reads nestingLimit 0 (Reader.start source)
  have hlaid := Reader.start_laid source
  have horder : Token.InOrder (Token.lex source) := Token.lexFrom_inOrder 0 source.toList
  have hstart : (readText source).1.span.start = (Token.hull (Token.lex source)).start :=
    (hreads.startsAt hlaid).trans (Reader.hull_start h).symm
  obtain ⟨taken, htaken⟩ := hreads.leads.tokens
  have hsplit : Token.lex source = taken ++ (readText source).2.tokens := htaken.symm
  refine ⟨hstart, taken, hsplit, fun t ht => ?_, fun t ht => ?_⟩
  · have hmem : t ∈ Token.lex source := hsplit ▸ List.mem_append_left _ ht
    refine ⟨hstart ▸ (horder.hull_le hmem).1, Nat.le_of_lt (horder.forward t hmem), ?_⟩
    exact Nat.le_trans (hreads.leads.stop_le horder hsplit ht) (hreads.covers hlaid)
  · rw [hsplit] at horder
    have hnext := (horder.right.hull_le ht).1
    rw [Reader.hull_start (List.ne_nil_of_mem ht)] at hnext
    exact Nat.le_trans (hreads.within hlaid (.head _)).last hnext

/-- The diagnostic for tokens that are left behind an expression. -/
def leftover : List Token → List Diagnostic
  | [] => []
  | t :: ts =>
    [⟨if t.kind = .closeParen then .unexpectedClosingParenthesis else .extraCharacters,
      Token.hull (t :: ts)⟩]

theorem closeText_diagnostics {r : Reader} (horder : Token.InOrder r.tokens)
    (hk : ∀ t ∈ r.tokens, t.kind ≠ .eof) :
    (closeText r).diagnostics.toList = r.diagnostics.toList ++ leftover r.tokens := by
  cases htok : r.tokens with
  | nil =>
    have hstay : closeText r = r := if_pos (Reader.kind_eq_eof htok)
    rw [hstay, leftover, List.append_nil]
  | cons t ts =>
    have hkind : r.kind ≠ .eof := Reader.kind_eq htok ▸ hk t (by simp [htok])
    have hmem : t ∈ r.tokens := by simp [htok]
    have hle : t.span.start ≤ (Token.hull r.tokens).stop :=
      Nat.le_trans (Nat.le_of_lt (horder.forward t hmem)) (horder.hull_le hmem).2
    have hspan : (Reader.skip r.tokens.length r).spanFrom (Span.point r.span.start) =
        Token.hull (t :: ts) := by
      rw [Reader.spanFrom, Reader.skip_lastEnd (by simp [htok]), Reader.span_eq htok, Span.point,
        Nat.max_eq_left hle, htok]
      rfl
    rw [closeText, if_neg hkind]
    simp only [Reader.report, Array.toList_push, Reader.skip_diagnostics, hspan,
      Reader.kind_eq htok, leftover]

/-- The diagnostics of a text are those for the expression, and one for the tokens left behind it.
-/
theorem parse_diagnostics_eq (h : Token.lex source ≠ []) :
    (parse source).diagnostics =
      (readText source).2.diagnostics.toList ++ leftover (readText source).2.tokens ∧
    ∀ d ∈ (readText source).2.diagnostics.toList, d.code.isLeftover = false := by
  have hreads := expression_reads nestingLimit 0 (Reader.start source)
  have hsuffix : (readText source).2.tokens <:+ Token.lex source := hreads.leads.tokens
  constructor
  · rw [parse_of_ne_nil h]
    have horder := (Token.lexFrom_inOrder 0 source.toList).sublist hsuffix.sublist
    refine closeText_diagnostics horder fun t ht => ?_
    exact Token.kind_ne_eof_of_mem_lexFrom (hsuffix.subset ht)
  · exact fun d hd => (hreads.reported_within nofun d hd).2

theorem isLeftover_of_mem_leftover {ts : List Token} {d : Diagnostic} (h : d ∈ leftover ts) :
    d.code.isLeftover = true := by
  cases ts with
  | nil => exact nomatch h
  | cons t ts =>
    rw [List.mem_singleton.1 h]
    by_cases hk : t.kind = .closeParen <;>
      simp [Diagnostic.code, Problem.code, Code.isLeftover, hk]

/-- The diagnostic for what is left spans all of it and says what it begins with. -/
theorem exists_of_mem_leftover {ts : List Token} {d : Diagnostic} (h : d ∈ leftover ts) :
    ∃ t behind, ts = t :: behind ∧ leftover ts = [d] ∧ d.span = Token.hull ts ∧
      (d.code = .unexpectedClosingParenthesis ↔ t.kind = .closeParen) := by
  cases ts with
  | nil => exact nomatch h
  | cons t ts =>
    rw [List.mem_singleton.1 h]
    refine ⟨t, ts, rfl, rfl, rfl, ?_⟩
    by_cases hk : t.kind = .closeParen <;> simp [Diagnostic.code, Problem.code, hk]

theorem exists_mem_leftover {ts : List Token} (h : ts ≠ []) :
    ∃ d ∈ leftover ts, d.code.isLeftover = true ∧ d.span = Token.hull ts := by
  obtain ⟨t, ts, rfl⟩ := List.exists_cons_of_ne_nil h
  have hd : _ ∈ leftover (t :: ts) := .head _
  exact ⟨_, hd, isLeftover_of_mem_leftover hd, rfl⟩

theorem mem_of_mem_dropLast {reading : List Diagnostic} {ts : List Token} {d : Diagnostic}
    (h : d ∈ (reading ++ leftover ts).dropLast) : d ∈ reading := by
  cases ts with
  | nil =>
    rw [leftover, List.append_nil] at h
    exact List.dropLast_subset _ h
  | cons t ts =>
    rw [leftover, List.dropLast_concat] at h
    exact h

/-- The root and the diagnostics of a text keep its tokens. -/
structure Parse.Keeps (p : Parse) (ts : List Token) : Prop where
  /-- The root starts at the first token. -/
  start : p.root.span.start = (Token.hull ts).start
  /-- Every token stands in the root or in the span of a diagnostic about what is left. -/
  covered : ∀ t ∈ ts, t.Inside p.root.span ∨
    ∃ d ∈ p.diagnostics, d.code.isLeftover = true ∧ t.Inside d.span
  /-- No diagnostic but the last one is about what is left. -/
  last : ∀ d ∈ p.diagnostics.dropLast, d.code.isLeftover = false
  /-- There is one exactly when some token does not stand in the root. -/
  present : (∃ d ∈ p.diagnostics, d.code.isLeftover = true) ↔ ∃ t ∈ ts, ¬ t.Inside p.root.span
  /-- It runs from the first such token to the last token, it does not start before the root has
  ended, and it is about a closing parenthesis exactly when it starts with one. -/
  placed : ∀ d ∈ p.diagnostics, d.code.isLeftover = true →
    ∃ before t behind, ts = before ++ t :: behind ∧ (∀ u ∈ before, u.Inside p.root.span) ∧
      ¬ t.Inside p.root.span ∧ d.span = Token.hull (t :: behind) ∧
      p.root.span.stop ≤ d.span.start ∧
      (d.code = .unexpectedClosingParenthesis ↔ t.kind = .closeParen)

/-- Nothing of a text is dropped unseen, whatever reading made of it: the root covers the tokens
that were taken, and one last diagnostic those that were left. -/
theorem parse_keeps {source : String} (h : Token.lex source ≠ []) :
    (parse source).Keeps (Token.lex source) := by
  have horder : Token.InOrder (Token.lex source) := Token.lexFrom_inOrder 0 source.toList
  obtain ⟨hstart, taken, hsplit, hinside, hbehind⟩ := readText_parts h
  obtain ⟨hdiagnostics, hreading⟩ := parse_diagnostics_eq h
  have hroot : (parse source).root = (readText source).1 := by rw [parse_of_ne_nil h]
  rw [← hroot] at hstart hinside hbehind
  generalize (readText source).2.diagnostics.toList = reading at *
  generalize (readText source).2.tokens = rest at *
  have houtside : ∀ t ∈ rest, ¬ t.Inside (parse source).root.span := by
    intro t ht htin
    have hforward := horder.forward t (hsplit ▸ List.mem_append_right _ ht)
    have hnext := hbehind t ht
    have hlast := htin.last
    omega
  have hleft : ∀ d ∈ (parse source).diagnostics, d.code.isLeftover = true →
      d ∈ leftover rest := by
    intro d hd hcode
    rcases List.mem_append.1 (hdiagnostics ▸ hd) with hd | hd
    · exact absurd hcode (by simp [hreading d hd])
    · exact hd
  have hfound : ∀ t ∈ rest, ∃ d ∈ (parse source).diagnostics,
      d.code.isLeftover = true ∧ d.span = Token.hull rest := by
    intro t ht
    obtain ⟨d, hd, hd'⟩ := exists_mem_leftover (List.ne_nil_of_mem ht)
    exact ⟨d, hdiagnostics ▸ List.mem_append_right _ hd, hd'⟩
  constructor
  case start => exact hstart
  case covered =>
    intro t ht
    rw [hsplit] at ht horder
    rcases List.mem_append.1 ht with ht | ht
    · exact .inl (hinside t ht)
    · obtain ⟨d, hd, hcode, hspan⟩ := hfound t ht
      have hbounds := horder.right.hull_le ht
      rw [← hspan] at hbounds
      exact .inr ⟨d, hd, hcode, hbounds.1, Nat.le_of_lt (horder.right.forward t ht), hbounds.2⟩
  case last =>
    intro d hd
    rw [hdiagnostics] at hd
    exact hreading d (mem_of_mem_dropLast hd)
  case present =>
    constructor
    · rintro ⟨d, hd, hcode⟩
      obtain ⟨t, behind, rfl, -⟩ := exists_of_mem_leftover (hleft d hd hcode)
      exact ⟨t, hsplit ▸ List.mem_append_right _ (.head _), houtside t (.head _)⟩
    · rintro ⟨t, ht, hout⟩
      rw [hsplit] at ht
      rcases List.mem_append.1 ht with ht | ht
      · exact absurd (hinside t ht) hout
      · obtain ⟨d, hd, hcode, -⟩ := hfound t ht
        exact ⟨d, hd, hcode⟩
  case placed =>
    intro d hd hcode
    obtain ⟨t, behind, rfl, -, hspan, hparen⟩ := exists_of_mem_leftover (hleft d hd hcode)
    refine ⟨taken, t, behind, hsplit, hinside, houtside t (.head _), hspan, ?_, hparen⟩
    rw [hspan, Token.hull_cons_start]
    exact hbehind t (.head _)

end

theorem parse_keeps_call : (parse "f(1, 2)) + 3").Keeps (Token.lex "f(1, 2)) + 3") :=
  parse_keeps (by decide +kernel)

/-! ### Valid beginnings -/

/-- Where the only error is about what is left behind the expression, the text before that is
accepted. It has the same root and the same warnings. -/
theorem parse_before_leftover {source : String} {d : Diagnostic} (hd : d.code.isLeftover = true)
    (honly : (parse source).diagnostics.filter (·.isError) = [d]) :
    (parse ((Span.mk 0 d.span.start).slice source)).ok = true ∧
    (parse ((Span.mk 0 d.span.start).slice source)).root = (parse source).root ∧
    (parse ((Span.mk 0 d.span.start).slice source)).diagnostics =
      (parse source).diagnostics.filter (!·.isError) := by
  obtain ⟨hmem, herror⟩ := List.mem_filter.1 (honly ▸ List.mem_singleton_self d)
  have h : Token.lex source ≠ [] := fun hnil => by simp [parse_of_nil hnil] at hmem
  obtain ⟨hdiagnostics, hreading⟩ := parse_diagnostics_eq h
  have hroot : (parse source).root = (readText source).1 := by rw [parse_of_ne_nil h]
  have hleft : d ∈ leftover (readText source).2.tokens := by
    rcases List.mem_append.1 (hdiagnostics ▸ hmem) with hmem | hmem
    · exact absurd hd (by simp [hreading d hmem])
    · exact hmem
  obtain ⟨t, behind, hrest, hsingle, hspan, -⟩ := exists_of_mem_leftover hleft
  rw [hsingle] at hdiagnostics
  -- without the leftovers nothing blocks the text, so that what was read is an expression
  have hf : (readText source).2.Faultless := by
    have hlast : [d].filter (·.isError) = [d] := by simp [herror]
    rw [hdiagnostics, List.filter_append, hlast] at honly
    have hnil := List.append_left_eq_self.1 honly
    simpa [Reader.Faultless, Faultless, List.filter_eq_nil_iff] using hnil
  obtain ⟨c, hc, haccounts⟩ := exists_accounts_of_faultless hf
  have htok := haccounts.tokens
  rw [hrest] at htok
  have hlex : c.tokens = Token.lex ((Span.mk 0 d.span.start).slice source) := by
    rw [hspan, hrest, Token.hull_cons_start, Token.lex_before htok]
  obtain ⟨hok, hroot'⟩ := parse_of_fitting hc hlex haccounts.fits
  refine ⟨hok, ?_, ?_⟩
  · rw [hroot', hroot, haccounts.expr]
  · have hmild : (readText source).2.diagnostics.toList.filter (!·.isError) =
        (readText source).2.diagnostics.toList :=
      List.filter_eq_self.2 fun e he => by simp [hf e he]
    have hlast : [d].filter (!·.isError) = [] := by simp [herror]
    rw [diagnostics_eq_mark hc hlex hok, ← haccounts.marks, hdiagnostics, List.filter_append, hmild,
      hlast, List.append_nil]
    rfl

theorem parse_before_leftover_call :
    (parse ((Span.mk 0 6).slice "((1)) f(2)")).ok = true ∧
    (parse ((Span.mk 0 6).slice "((1)) f(2)")).root = (parse "((1)) f(2)").root ∧
    (parse ((Span.mk 0 6).slice "((1)) f(2)")).diagnostics =
      (parse "((1)) f(2)").diagnostics.filter (!·.isError) :=
  parse_before_leftover (d := ⟨.extraCharacters, ⟨6, 10⟩⟩) rfl (by decide +kernel)

end EventSheet
