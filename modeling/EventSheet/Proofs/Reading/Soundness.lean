import EventSheet.Proofs.Faultless
import EventSheet.Proofs.Reading.Course
import EventSheet.Proofs.Reading.Strength
import EventSheet.Proofs.Syntax.Groups

/-!
# Reading without an error

What is read without an error is a tree of the grammar: `expression_accounted`. Every path on which
reading recovers reports an error, so none of them is taken; on the others each reader takes the
tokens of one production. The loop over the operators carries the tree of its left operand, which
the operator that comes next always admits. A tree that is read takes no more levels than there are,
and what is kept of its groups is what `Concrete.mark` says.
-/

namespace EventSheet

/-- Whether no diagnostic so far blocks the text. -/
def Reader.Faultless (r : Reader) : Prop := EventSheet.Faultless r.diagnostics.toList

theorem Reader.Leads.faultless {r r' : Reader} (h : r.Leads r') (h' : r'.Faultless) : r.Faultless :=
  fun d hd => h' d (h.diagnostics.subset hd)

theorem Reader.not_faultless_report (r : Reader) {p : Problem} (s : Span)
    (hp : p.severity = .error) : ¬ (r.report p s).Faultless := by
  intro h
  have hd := h ⟨p, s⟩ (by simp [Reader.report])
  rw [isError_eq_false_iff, hp] at hd
  exact absurd hd (by decide)

theorem not_faultless_tooDeep (r : Reader) : ¬ (tooDeep r).2.Faultless :=
  Reader.not_faultless_report _ _ rfl

theorem not_faultless_unexpected (r : Reader) : ¬ (unexpected r).2.Faultless :=
  Reader.not_faultless_report _ _ rfl

theorem not_faultless_missing {p : Problem} (hp : p.severity = .error) (r : Reader) :
    ¬ (missing p r).2.Faultless :=
  Reader.not_faultless_report _ _ hp

/-! ### What a reading keeps of groups -/

/-- The group closed last and what was reported so far. -/
def Reader.marks (r : Reader) : Marks := ⟨r.lastGroup, r.diagnostics.toList⟩

@[simp] theorem Reader.advance_marks (r : Reader) : r.advance.marks = r.marks := by
  unfold Reader.advance
  split <;> rfl

theorem afterGroup_marks {content : Expr} (h : content.isError = false) (s : Span) (r : Reader) :
    (afterGroup content s r).marks = r.marks.close content.span s := by
  unfold afterGroup Marks.close Reader.marks
  cases hlast : r.lastGroup == some content.span <;>
    simp_all [Reader.closeGroup, Reader.report]

theorem Concrete.isError_expr (c : Concrete) : c.expr.isError = false := by
  have h := c.isWritten_expr
  cases hexpr : c.expr <;> simp_all [Expr.isWritten, Expr.isError]

/-! ### What a reading yields -/

/-- A tree accounts for what is read from some tokens on: it stands for the expression, its tokens
are those taken, it takes no more than the given levels to read, and what is kept of its groups is
what the reader keeps. -/
structure Concrete.Accounts (c : Concrete) (levels : Nat) (us : List Token) (m : Marks)
    (p : Expr × Reader) : Prop where
  expr : p.1 = c.expr
  tokens : us = c.tokens ++ p.2.tokens
  fits : c.demand ≤ levels
  marks : p.2.marks = c.mark m

/-- A tree of the layer accounts for what a reader yields, and no operator of the layer is left
behind. -/
def Accounted (levels : Nat) (l : Layer) (r : Reader) (p : Expr × Reader) : Prop :=
  ∃ c : Concrete, c.In l ∧ c.Accounts levels r.tokens r.marks p ∧ l.Stops p.2.tokens

/-- Whether all that a reader yields without an error is accounted for. -/
def ExprReader.Accounts (levels : Nat) (inner : ExprReader) : Prop :=
  ∀ (s : Nat) (r : Reader), s ≤ strongest → (inner s r).2.Faultless →
    Accounted levels (layerAt s) r (inner s r)

/-- A value that a tree accounts for. No operator is left out of a value, whatever comes next. -/
def AccountedValue (levels : Nat) (us : List Token) (m : Marks) (p : Expr × Reader) : Prop :=
  ∃ c : Concrete, c.In .primary ∧ c.Accounts levels us m p

section Parts

variable {levels : Nat} {inner : ExprReader} (hi : inner.Accounts levels)

include hi

/-- What is read without an error up to the end of a level is an expression. -/
theorem level_accounted {r : Reader} (hf : (inner 0 r).2.Faultless) :
    ∃ c : Concrete, c.In .sum ∧ c.Accounts levels r.tokens r.marks (inner 0 r) := by
  obtain ⟨c, hc, haccounts, -⟩ := hi 0 r (Nat.zero_le _) hf
  exact ⟨c, hc, haccounts⟩

theorem group_accounted {r : Reader} (hk : r.kind = .openParen)
    (hf : (group inner r).2.Faultless) :
    AccountedValue (levels + 1) r.tokens r.marks (group inner r) := by
  obtain ⟨o, ts, hotok, ho⟩ := Reader.exists_tokens_of_kind hk (by decide)
  rw [group_eq] at hf ⊢
  split at hf
  next hclose =>
    rw [if_pos hclose]
    obtain ⟨u, us, hutok, hu⟩ := Reader.exists_tokens_of_kind hclose (by decide)
    have hf' := ((Reader.advance_leads _).trans (afterGroup_leads _ _ _)).faultless hf
    obtain ⟨c, hc, hexpr, htok, hfits, hmarks⟩ := level_accounted hi hf'
    rw [Reader.advance_tokens_eq hotok, hutok] at htok
    rw [Reader.advance_marks] at hmarks
    rw [hexpr, Reader.span_eq hotok, Reader.span_eq hutok]
    refine ⟨.group o c u, ?_, ?_, ?_, Nat.succ_le_succ hfits, ?_⟩
    · rw [Concrete.In]
      exact ⟨ho, hc, hu⟩
    · rw [Concrete.expr]
    · simp [Concrete.tokens, hotok, htok, Reader.advance_tokens_eq hutok]
    · rw [afterGroup_marks c.isError_expr, Reader.advance_marks, hmarks, Concrete.mark]
  next => exact absurd hf (Reader.not_faultless_report _ _ rfl)

/-- Every argument but the last takes a comma, so that more of them are asked for than there are
tokens. -/
theorem arguments_accounted (hl : inner.Leads) {n : Nat} {r : Reader} (hn : r.tokens.length < n)
    (hf : (arguments inner n r).2.Faultless) :
    ∃ (c : Concrete) (as : Arguments), c.In .sum ∧ as.InSum ∧
      (arguments inner n r).1 = c.expr :: as.exprs ∧
      r.tokens = c.tokens ++ (as.tokens ++ (arguments inner n r).2.tokens) ∧
      max c.demand as.demand ≤ levels ∧
      (arguments inner n r).2.marks = as.mark (c.mark r.marks) := by
  induction n generalizing r with
  | zero => omega
  | succ n ih =>
    rw [arguments_succ] at hf ⊢
    split at hf
    next hcomma =>
      rw [if_pos hcomma]
      obtain ⟨u, us, hutok, hu⟩ := Reader.exists_tokens_of_kind hcomma (by decide)
      have hf' := ((Reader.advance_leads _).trans (arguments_leads hl _ _)).faultless hf
      obtain ⟨c, hc, hexpr, htok, hfits, hmarks⟩ := level_accounted hi hf'
      have hlen : (inner 0 r).2.advance.tokens.length < n := by
        rw [Reader.advance_tokens_eq hutok]
        rw [hutok] at htok
        simp only [htok, List.length_append, List.length_cons] at hn
        omega
      obtain ⟨d, as, hd, has, hexprs, hdtok, hdfits, hdmarks⟩ := ih hlen hf
      rw [Reader.advance_tokens_eq hutok] at hdtok
      rw [Reader.advance_marks, hmarks] at hdmarks
      refine ⟨c, .cons u d as, hc, ?_, ?_, ?_, Nat.max_le.2 ⟨hfits, hdfits⟩, hdmarks⟩
      · rw [Arguments.InSum]
        exact ⟨hu, hd, has⟩
      · rw [hexpr, hexprs, Arguments.exprs]
      · rw [htok, hutok, hdtok]
        simp [Arguments.tokens]
    next hcomma =>
      rw [if_neg hcomma]
      obtain ⟨c, hc, hexpr, htok, hfits, hmarks⟩ := level_accounted hi hf
      exact ⟨c, .nil, hc, trivial, by rw [hexpr, Arguments.exprs], htok,
        Nat.max_le.2 ⟨hfits, Nat.zero_le _⟩, hmarks⟩

theorem call_accounted (hl : inner.Leads) {head : Head} (hh : head.Spelled) {r : Reader}
    (hk : r.kind = .openParen) (hf : (call inner head.callee r).2.Faultless) :
    AccountedValue (levels + 1) (head.tokens ++ r.tokens) r.marks (call inner head.callee r) := by
  obtain ⟨o, ts, hotok, ho⟩ := Reader.exists_tokens_of_kind hk (by decide)
  rw [call_eq] at hf ⊢
  by_cases hclose : (callInside inner r.advance).2.kind = .closeParen
  · obtain ⟨u, us, hutok, hu⟩ := Reader.exists_tokens_of_kind hclose (by decide)
    have hafter : afterInside r.span (callInside inner r.advance).2 =
        (callInside inner r.advance).2.advance := if_pos hclose
    rw [hafter] at hf ⊢
    have hf' := (Reader.advance_leads _).faultless hf
    rw [Reader.advance_lastEnd_eq hutok]
    by_cases hempty : r.advance.kind = .closeParen
    · have hinside : callInside inner r.advance = ([], r.advance) := if_pos hempty
      rw [hinside] at hutok ⊢
      have hrest := Reader.advance_tokens_eq hutok
      rw [Reader.advance_tokens_eq hotok] at hutok
      refine ⟨.call head o u, ?_, ?_, ?_, Nat.succ_le_succ (Nat.zero_le _), ?_⟩
      · rw [Concrete.In]
        exact ⟨hh, ho, hu⟩
      · rw [Concrete.expr]
      · simp [Concrete.tokens, hotok, hutok, hrest]
      · simp [Concrete.mark]
    · have hinside : callInside inner r.advance =
          arguments inner (r.advance.tokens.length + 1) r.advance := if_neg hempty
      rw [hinside] at hutok hf' ⊢
      obtain ⟨c, as, hc, has, hexprs, htok, hfits, hmarks⟩ :=
        arguments_accounted hi hl (Nat.lt_add_one _) hf'
      rw [hutok, Reader.advance_tokens_eq hotok] at htok
      rw [Reader.advance_marks] at hmarks
      refine ⟨.callWith head o c as u, ?_, ?_, ?_, Nat.succ_le_succ hfits, ?_⟩
      · rw [Concrete.In]
        exact ⟨hh, ho, hc, has, hu⟩
      · rw [Concrete.expr, hexprs]
      · simp [Concrete.tokens, hotok, htok, Reader.advance_tokens_eq hutok]
      · rw [Reader.advance_marks, hmarks, Concrete.mark]
  · have hafter : afterInside r.span (callInside inner r.advance).2 = _ := if_neg hclose
    rw [hafter] at hf
    exact absurd hf (Reader.not_faultless_report _ _ rfl)

theorem accessors_accounted (hl : inner.Leads) {n : Nat} {r : Reader}
    (hf : (accessors inner n r).2.Faultless) :
    ∃ as : Accessors, as.InSum ∧ (accessors inner n r).1 = as.steps ∧
      r.tokens = as.tokens ++ (accessors inner n r).2.tokens ∧
      (accessors inner n r).2.lastEnd = as.stop r.lastEnd ∧ as.demand ≤ levels ∧
      (accessors inner n r).2.marks = as.mark r.marks ∧
      (as = .nil → n = 0 ∨ r.kind ≠ .dot ∧ r.kind ≠ .openBracket) := by
  induction n generalizing r with
  | zero => exact ⟨.nil, trivial, rfl, rfl, rfl, Nat.zero_le _, rfl, fun _ => .inl rfl⟩
  | succ n ih =>
    by_cases hdot : r.kind = .dot
    · obtain ⟨d, ts, hdtok, hd⟩ := Reader.exists_tokens_of_kind hdot (by decide)
      rw [accessors_of_dot inner n hdot] at hf ⊢
      split at hf
      next hname =>
        rw [if_pos hname]
        obtain ⟨m, us, hmtok, hm⟩ := Reader.exists_tokens_of_kind hname (by decide)
        obtain ⟨as, has, hsteps, htok, hend, hfits, hmarks, -⟩ := ih hf
        have hts : ts = m :: us := (Reader.advance_tokens_eq hdtok).symm.trans hmtok
        rw [Reader.advance_tokens_eq hmtok] at htok
        rw [Reader.advance_lastEnd_eq hmtok] at hend
        rw [Reader.advance_marks, Reader.advance_marks] at hmarks
        refine ⟨.child d m as, ?_, ?_, ?_, ?_, hfits, hmarks, by simp⟩
        · rw [Accessors.InSum]
          exact ⟨hd, hm, has⟩
        · rw [Accessors.steps, hsteps, Reader.span_eq hdtok, Reader.token_eq hmtok]
        · simp [Accessors.tokens, hdtok, hts, htok]
        · rw [hend, Accessors.stop]
      next => exact absurd hf (Reader.not_faultless_report _ _ rfl)
    by_cases hbracket : r.kind = .openBracket
    · obtain ⟨o, ts, hotok, ho⟩ := Reader.exists_tokens_of_kind hbracket (by decide)
      rw [accessors_of_openBracket inner n hbracket] at hf ⊢
      split at hf
      next hclose =>
        rw [if_pos hclose]
        obtain ⟨u, us, hutok, hu⟩ := Reader.exists_tokens_of_kind hclose (by decide)
        have hf' := ((Reader.advance_leads _).trans (accessors_leads hl _ _)).faultless hf
        obtain ⟨c, hc, hexpr, hctok, hcfits, hcmarks⟩ := level_accounted hi hf'
        obtain ⟨as, has, hsteps, htok, hend, hfits, hmarks, -⟩ := ih hf
        rw [Reader.advance_tokens_eq hutok] at htok
        rw [Reader.advance_lastEnd_eq hutok] at hend
        rw [Reader.advance_tokens_eq hotok, hutok] at hctok
        rw [Reader.advance_marks] at hcmarks hmarks
        rw [hcmarks] at hmarks
        refine ⟨.index o c u as, ?_, ?_, ?_, ?_, Nat.max_le.2 ⟨hcfits, hfits⟩, hmarks, by simp⟩
        · rw [Accessors.InSum]
          exact ⟨ho, hc, hu, has⟩
        · rw [Accessors.steps, hexpr, hsteps, Reader.span_eq hotok, Reader.span_eq hutok]
        · simp [Accessors.tokens, hotok, hctok, htok]
        · rw [hend, Accessors.stop]
      next => exact absurd hf (Reader.not_faultless_report _ _ rfl)
    · rw [accessors_of_ne inner (n + 1) hdot hbracket]
      exact ⟨.nil, trivial, rfl, rfl, rfl, Nat.zero_le _, rfl, fun _ => .inr ⟨hdot, hbracket⟩⟩

theorem access_accounted (hl : inner.Leads) {n : Token} (hn : n.kind = .ident) {r : Reader}
    (hend : r.lastEnd = n.span.stop) (hk : r.kind = .dot ∨ r.kind = .openBracket)
    (hf : (access inner (Name.ofToken n) r).2.Faultless) :
    AccountedValue (levels + 1) (n :: r.tokens) r.marks (access inner (Name.ofToken n) r) := by
  rw [access_eq] at hf ⊢
  obtain ⟨as, has, hsteps, htok, hstop, hfits, hmarks, hnil⟩ := accessors_accounted hi hl hf
  have hne : as ≠ .nil := by
    intro heq
    rcases hnil heq with h | ⟨hdot, hbracket⟩
    · omega
    · exact hk.elim hdot hbracket
  rw [hend] at hstop
  refine ⟨.access n as, ?_, ?_, ?_, Nat.succ_le_succ hfits, hmarks⟩
  · rw [Concrete.In]
    exact ⟨hn, hne, has⟩
  · simp only [Concrete.expr, Name.ofToken, Reader.spanFrom, hsteps, hstop]
  · rw [Concrete.tokens, List.cons_append]
    exact congrArg (n :: ·) htok

theorem behaviorCall_accounted (hl : inner.Leads) {o d b s : Token} {ts : List Token}
    (ho : o.kind = .ident) (hd : d.kind = .dot) (hb : b.kind = .ident) (hs : s.kind = .colonColon)
    {r : Reader} (htok : r.tokens = d :: b :: s :: ts)
    (hf : (behaviorCall inner (Name.ofToken o) r).2.Faultless) :
    AccountedValue (levels + 1) (o :: r.tokens) r.marks
      (behaviorCall inner (Name.ofToken o) r) := by
  have hbtok := Reader.advance_tokens_eq htok
  have hstok := Reader.advance_tokens_eq hbtok
  have hftok := Reader.advance_tokens_eq hstok
  generalize hp : behaviorCall inner (Name.ofToken o) r = p at hf ⊢
  unfold behaviorCall at hp
  dsimp only at hp
  split at hp
  next hname =>
    obtain ⟨f, us, hus, hfk⟩ := Reader.exists_tokens_of_kind hname (by decide)
    split at hp
    next hopen =>
      rw [Reader.token_eq hbtok, Reader.token_eq hus] at hp
      subst hp
      have hhead : (Head.onBehavior o d b s f).Spelled := ⟨ho, hd, hb, hs, hfk⟩
      have hcall := call_accounted hi hl hhead hopen hf
      rw [Reader.advance_tokens_eq hus] at hcall
      simp only [Reader.advance_marks] at hcall
      rw [htok, ← hftok, hus]
      exact hcall
    next =>
      subst hp
      exact absurd hf (Reader.not_faultless_report _ _ rfl)
  next =>
    subst hp
    exact absurd hf (Reader.not_faultless_report _ _ rfl)

theorem named_accounted (hl : inner.Leads) {r : Reader} (hk : r.kind = .ident)
    (hf : (named inner r).2.Faultless) :
    AccountedValue (levels + 1) r.tokens r.marks (named inner r) := by
  obtain ⟨n, ts, hntok, hn⟩ := Reader.exists_tokens_of_kind hk (by decide)
  have hend := Reader.advance_lastEnd_eq hntok
  have hts := Reader.advance_tokens_eq hntok
  rw [hntok, ← hts, ← r.advance_marks]
  generalize hp : named inner r = p at hf ⊢
  unfold named at hp
  dsimp only at hp
  rw [Reader.token_eq hntok] at hp
  split at hp
  next hopen =>
    subst hp
    have hhead : (Head.free n).Spelled := hn
    exact call_accounted hi hl hhead hopen hf
  next hdot hname hopen =>
    rw [Reader.kindAt_succ] at hname hopen
    rw [Reader.kindAt_succ] at hopen
    obtain ⟨d, us, hdtok, hd⟩ := Reader.exists_tokens_of_kind hdot (by decide)
    obtain ⟨f, vs, hftok, hfk⟩ := Reader.exists_tokens_of_kind hname (by decide)
    rw [Reader.token_eq hftok] at hp
    subst hp
    have hhead : (Head.onObject n d f).Spelled := ⟨hn, hd, hfk⟩
    have hcall := call_accounted hi hl hhead hopen hf
    rw [Reader.advance_tokens_eq hftok] at hcall
    simp only [Reader.advance_marks] at hcall ⊢
    rw [hdtok, ← Reader.advance_tokens_eq hdtok, hftok]
    exact hcall
  next hdot hname hcolons =>
    rw [Reader.kindAt_succ] at hname hcolons
    rw [Reader.kindAt_succ] at hcolons
    obtain ⟨d, us, hdtok, hd⟩ := Reader.exists_tokens_of_kind hdot (by decide)
    obtain ⟨b, vs, hbtok, hb⟩ := Reader.exists_tokens_of_kind hname (by decide)
    obtain ⟨s, ws, hstok, hs⟩ := Reader.exists_tokens_of_kind hcolons (by decide)
    subst hp
    have htok : r.advance.tokens = d :: b :: s :: ws := by
      rw [hdtok, ← Reader.advance_tokens_eq hdtok, hbtok, ← Reader.advance_tokens_eq hbtok, hstok]
    exact behaviorCall_accounted hi hl hn hd hb hs htok hf
  next hdot _ _ =>
    subst hp
    exact access_accounted hi hl hn hend (.inl hdot) hf
  next hbracket =>
    subst hp
    exact access_accounted hi hl hn hend (.inr hbracket) hf
  next =>
    subst hp
    refine ⟨.name n, ?_, ?_, ?_, Nat.succ_le_succ (Nat.zero_le _), rfl⟩
    · rw [Concrete.In]
      exact hn
    · rw [Concrete.expr, Name.ofToken]
    · rw [Concrete.tokens]
      rfl

theorem primary_accounted (hl : inner.Leads) {r : Reader} (hf : (primary inner r).2.Faultless) :
    AccountedValue (levels + 1) r.tokens r.marks (primary inner r) := by
  generalize hp : primary inner r = p at hf ⊢
  unfold primary at hp
  dsimp only at hp
  split at hp
  next hk =>
    obtain ⟨t, ts, htok, ht⟩ := Reader.exists_tokens_of_kind hk (by decide)
    subst hp
    refine ⟨.number t, ?_, ?_, ?_, Nat.succ_le_succ (Nat.zero_le _), r.advance_marks⟩
    · rw [Concrete.In]
      exact ht
    · rw [Concrete.expr, Reader.token_eq htok]
    · rw [Concrete.tokens, htok, Reader.advance_tokens_eq htok]
      rfl
  next hk =>
    obtain ⟨t, ts, htok, ht⟩ := Reader.exists_tokens_of_kind hk (by decide)
    subst hp
    refine ⟨.string t, ?_, ?_, ?_, Nat.succ_le_succ (Nat.zero_le _), r.advance_marks⟩
    · rw [Concrete.In]
      exact ht
    · rw [Concrete.expr, Reader.token_eq htok]
    · rw [Concrete.tokens, htok, Reader.advance_tokens_eq htok]
      rfl
  next => exact absurd (hp ▸ hf) (Reader.not_faultless_report _ _ rfl)
  next hk =>
    subst hp
    exact group_accounted hi hk hf
  next hk =>
    subst hp
    exact named_accounted hi hl hk hf
  next => exact absurd (hp ▸ hf) (not_faultless_missing rfl r)
  next => exact absurd (hp ▸ hf) (not_faultless_missing rfl r)
  next => exact absurd (hp ▸ hf) (not_faultless_missing rfl r)
  next => exact absurd (hp ▸ hf) (not_faultless_missing rfl r)
  next => exact absurd (hp ▸ hf) (not_faultless_unexpected r)

/-- A sign takes all operators that bind at least as strongly, so that what comes next finds its
left operand in the signed one. -/
theorem operand_accounted (hl : inner.Leads) {r : Reader} (hf : (operand inner r).2.Faultless) :
    ∃ c : Concrete, c.In .unary ∧ c.chain = 0 ∧
      c.Accounts (levels + 1) r.tokens r.marks (operand inner r) ∧
      c.Admits (operand inner r).2.tokens := by
  generalize hp : operand inner r = p at hf ⊢
  unfold operand at hp
  split at hp
  next s hs =>
    have hk := TokenKind.eq_of_sign? hs
    obtain ⟨t, ts, htok, ht⟩ := Reader.exists_tokens_of_kind hk (by cases s <;> decide)
    subst hp
    obtain ⟨c, hc, ⟨hexpr, hctok, hfits, hmarks⟩, hstop⟩ :=
      hi signStrength r.advance signStrength_le_strongest hf
    rw [layerAt_signStrength] at hc hstop
    rw [Reader.advance_tokens_eq htok] at hctok
    rw [Reader.advance_marks] at hmarks
    refine ⟨.signed s t c, ?_, rfl, ⟨?_, ?_, Nat.succ_le_succ hfits, hmarks⟩, ?_⟩
    · rw [Concrete.In]
      exact ⟨Layer.le_refl _, ht, hc⟩
    · rw [Concrete.expr, ← hexpr, ← Reader.span_eq htok]
    · rw [Concrete.tokens, htok, hctok]
      rfl
    · exact hc.admits_signed ht hstop
  next =>
    subst hp
    obtain ⟨c, hc, haccounts⟩ := primary_accounted hi hl hf
    exact ⟨c, hc.mono (by decide), Concrete.chain_eq_zero hc, haccounts, hc.admits _⟩

end Parts

/-! ### Operators -/

mutual

/-- What is read without an error is an expression of the layer that is asked for. -/
theorem expression_accounted : ∀ (levels : Nat) {strength : Nat} (r : Reader),
    strength ≤ strongest → (expression levels strength r).2.Faultless →
      Accounted levels (layerAt strength) r (expression levels strength r)
  | 0, _, r, _, hf => absurd hf (not_faultless_tooDeep r)
  | levels + 1, strength, r, hs, hf => by
    rw [expression_succ] at hf ⊢
    have hf' := (operations_leads levels strength _ _).faultless hf
    obtain ⟨c, hc, hchain, haccounts, hadm⟩ := operand_accounted
      (fun s r hs hf => expression_accounted levels r hs hf) (leads_expression levels) hf'
    have hlevels : levels + c.chain + 1 = levels + 1 := by rw [hchain, Nat.add_zero]
    rw [← hlevels] at haccounts ⊢
    exact operations_accounted levels hs (hc.mono (layerAt_le_unary strength)) haccounts hadm hf

/-- The tree of the left operand admits the operator that comes next. The loop keeps this, because
the right operand it reads leaves no operator behind that would belong to it. The levels that are
left and the operators already taken make up the levels there were. -/
theorem operations_accounted : ∀ (levels : Nat) {strength : Nat} {left : Concrete}
    {us : List Token} {m : Marks} {p : Expr × Reader},
    strength ≤ strongest → left.In (layerAt strength) →
      left.Accounts (levels + left.chain + 1) us m p → left.Admits p.2.tokens →
      (operations levels strength p.1 p.2).2.Faultless →
      ∃ c : Concrete, c.In (layerAt strength) ∧
        c.Accounts (levels + left.chain + 1) us m (operations levels strength p.1 p.2) ∧
        (layerAt strength).Stops (operations levels strength p.1 p.2).2.tokens
  | levels, strength, left, us, m, (e, r), hs, hleft, haccounts, hadm, hf => by
    dsimp only at hadm hf ⊢
    rcases hb : r.kind.binding? with _ | b
    · rw [operations_of_none levels e hb]
      refine ⟨left, hleft, haccounts, ?_⟩
      cases htok : r.tokens with
      | nil => trivial
      | cons t ts => exact Layer.stops_of_binding?_eq_none (Reader.kind_eq htok ▸ hb) ts
    obtain ⟨o, hk, rfl⟩ := TokenKind.eq_of_binding? hb
    obtain ⟨t, ts, htok, ht⟩ := Reader.exists_tokens_of_kind hk (by cases o <;> decide)
    by_cases hlt : o.binding.left < strength
    · rw [operations_of_lt levels e hb hlt]
      refine ⟨left, hleft, haccounts, ?_⟩
      rw [htok]
      intro p hp
      obtain rfl := Operator.kind_injective (ht.symm.trans hp)
      exact (o.left_lt_iff hs).1 hlt
    have hle : layerAt strength ≤ o.layer := by
      rw [o.left_lt_iff hs] at hlt
      exact Decidable.not_not.1 hlt
    match levels with
    | 0 =>
      rw [operations_zero e hb hlt] at hf
      exact absurd hf (not_faultless_tooDeep r.advance)
    | levels + 1 =>
      rw [operations_succ levels e hb hlt] at hf ⊢
      have hf' := (operations_leads levels strength _ _).faultless hf
      obtain ⟨right, hright, ⟨hexpr, hrtok, hrfits, hrmarks⟩, hrstop⟩ :=
        expression_accounted levels r.advance o.right_le_strongest hf'
      rw [o.layerAt_right] at hright hrstop
      rw [htok] at hadm
      have ho := hadm o ht
      have hin : (Concrete.operation o t left right).In (layerAt strength) := by
        rw [Concrete.In]
        exact ⟨hle, ht, ho, hright⟩
      have hlevels : levels + 1 + left.chain + 1 =
          levels + (Concrete.operation o t left right).chain + 1 := by
        rw [Concrete.chain]
        omega
      rw [hlevels] at haccounts ⊢
      rw [Reader.advance_tokens_eq htok] at hrtok
      rw [Reader.advance_marks] at hrmarks
      generalize expression levels o.binding.right r.advance = q at *
      refine operations_accounted levels (p := (.binary _ e q.1 (e.span.merge q.1.span), q.2))
        hs hin ⟨?_, ?_, ?_, ?_⟩ (ho.admits_operation hright ht hrstop) hf
      · have hleft : e = left.expr := haccounts.expr
        rw [hexpr, o.binding_operator, hleft, Concrete.expr]
      · rw [haccounts.tokens, htok, hrtok, Concrete.tokens]
        simp
      · have hfits := haccounts.fits
        rw [Concrete.demand]
        rw [Concrete.chain] at hfits ⊢
        omega
      · have hmarks : r.marks = left.mark m := haccounts.marks
        rw [hrmarks, hmarks, Concrete.mark]

end

end EventSheet
