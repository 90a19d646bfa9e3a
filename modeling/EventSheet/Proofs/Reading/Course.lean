import EventSheet.Expr.Parser

/-!
# The course of reading

A reader of the grammar takes tokens from the front and keeps where the last one ended, adds
diagnostics at the end and changes nothing that stands: `expression_leads`. Hence whatever holds of
all diagnostics at the end of a reading holds of those that were there at any place on its way.
-/

namespace EventSheet

namespace Reader

/-- The second reader stands further on in the same text than the first one. -/
structure Leads (r r' : Reader) : Prop where
  source : r'.source = r.source
  tokens : r'.tokens <:+ r.tokens
  diagnostics : r.diagnostics.toList <+: r'.diagnostics.toList
  /-- No token was taken, or the last one taken ended there. -/
  lastEnd : r'.tokens = r.tokens ∧ r'.lastEnd = r.lastEnd ∨
    ∃ us t, r.tokens = us ++ t :: r'.tokens ∧ r'.lastEnd = t.span.stop

theorem Leads.refl (r : Reader) : r.Leads r :=
  ⟨rfl, List.suffix_refl _, List.prefix_refl _, .inl ⟨rfl, rfl⟩⟩

theorem Leads.trans {r r' r'' : Reader} (h : r.Leads r') (h' : r'.Leads r'') : r.Leads r'' := by
  refine ⟨h'.source.trans h.source, h'.tokens.trans h.tokens, h.diagnostics.trans h'.diagnostics,
    ?_⟩
  rcases h'.lastEnd with ⟨htok', hend'⟩ | ⟨us', t', htok', hend'⟩
  · rw [htok', hend']
    exact h.lastEnd
  · refine .inr ?_
    rcases h.lastEnd with ⟨htok, -⟩ | ⟨us, t, htok, -⟩
    · exact ⟨us', t', htok ▸ htok', hend'⟩
    · exact ⟨us ++ t :: us', t', by rw [htok, htok', List.append_assoc, List.cons_append], hend'⟩

/-! ### The reader at a token -/

section AtToken

variable {r : Reader} {t : Token} {ts : List Token}

theorem token_eq (h : r.tokens = t :: ts) : r.token = t := by
  simp [token, h]

theorem span_eq (h : r.tokens = t :: ts) : r.span = t.span := by
  simp [span, token, h]

theorem kind_eq (h : r.tokens = t :: ts) : r.kind = t.kind := by
  simp [kind, kindAt, h]

theorem kind_eq_eof (h : r.tokens = []) : r.kind = .eof := by
  simp [kind, kindAt, h]

theorem advance_tokens_eq (h : r.tokens = t :: ts) : r.advance.tokens = ts := by
  simp [advance, h]

theorem advance_lastEnd_eq (h : r.tokens = t :: ts) : r.advance.lastEnd = t.span.stop := by
  simp [advance, h]

/-- A reader that stands at any kind but the end stands at a token of that kind. -/
theorem exists_tokens_of_kind {k : TokenKind} (h : r.kind = k) (hk : k ≠ .eof) :
    ∃ t ts, r.tokens = t :: ts ∧ t.kind = k := by
  cases htok : r.tokens with
  | nil => exact absurd ((kind_eq_eof htok).symm.trans h).symm hk
  | cons t ts => exact ⟨t, ts, rfl, (kind_eq htok).symm.trans h⟩

theorem token_mem_of_kind {k : TokenKind} (h : r.kind = k) (hk : k ≠ .eof) :
    r.token ∈ r.tokens ∧ r.token.kind = k := by
  obtain ⟨t, ts, htok, hkind⟩ := exists_tokens_of_kind h hk
  rw [token_eq htok]
  exact ⟨htok ▸ .head _, hkind⟩

/-- Only the end is not taken. -/
theorem advance_lt {k : TokenKind} (h : r.kind = k) (hk : k ≠ .eof) :
    r.advance.tokens.length < r.tokens.length := by
  obtain ⟨t, ts, htok, -⟩ := exists_tokens_of_kind h hk
  rw [advance_tokens_eq htok, htok]
  exact Nat.lt_succ_self _

theorem kind_ne_eof_of_sign {s : Sign} (h : r.kind.sign? = some s) : r.kind ≠ .eof := by
  intro hk
  rw [hk] at h
  exact nomatch h

theorem kind_ne_eof_of_binding {b : Binding} (h : r.kind.binding? = some b) : r.kind ≠ .eof := by
  intro hk
  rw [hk] at h
  exact nomatch h

theorem kindAt_succ (r : Reader) (n : Nat) : r.kindAt (n + 1) = r.advance.kindAt n := by
  cases htok : r.tokens with
  | nil => simp [kindAt, advance, htok]
  | cons t ts => simp [kindAt, advance, htok]

end AtToken

@[simp] theorem advance_diagnostics (r : Reader) : r.advance.diagnostics = r.diagnostics := by
  unfold advance
  split <;> rfl

@[simp] theorem skip_diagnostics (n : Nat) (r : Reader) :
    (skip n r).diagnostics = r.diagnostics := by
  induction n generalizing r with
  | zero => rfl
  | succ n ih => rw [skip, ih, advance_diagnostics]

/-! ### Single moves -/

theorem advance_leads (r : Reader) : r.Leads r.advance := by
  cases htok : r.tokens with
  | nil =>
    have hstay : r.advance = r := by simp [advance, htok]
    rw [hstay]
    exact .refl r
  | cons t ts =>
    refine ⟨r.advance_source, by simp [advance, htok], by simp, .inr ⟨[], t, ?_, ?_⟩⟩
    · rw [advance_tokens_eq htok, htok, List.nil_append]
    · exact advance_lastEnd_eq htok

theorem skip_leads (n : Nat) (r : Reader) : r.Leads (skip n r) := by
  induction n generalizing r with
  | zero => exact .refl r
  | succ n ih => exact r.advance_leads.trans (ih r.advance)

theorem report_leads (r : Reader) (p : Problem) (s : Span) : r.Leads (r.report p s) :=
  ⟨rfl, List.suffix_refl _, by simp [report], .inl ⟨rfl, rfl⟩⟩

theorem closeGroup_leads (r : Reader) (s : Span) : r.Leads (r.closeGroup s) :=
  ⟨rfl, List.suffix_refl _, List.prefix_refl _, .inl ⟨rfl, rfl⟩⟩

theorem fail_leads (r : Reader) (p : Problem) (reason : String) (s : Span) :
    r.Leads (r.fail p reason s).2 :=
  r.report_leads p s

end Reader

/-! ### The nesting limit -/

/-- Whether the nesting limit was not reported so far. -/
def Reader.Shallow (r : Reader) : Prop := ∀ d ∈ r.diagnostics.toList, d.code ≠ .nestingTooDeep

theorem Reader.Leads.shallow {r r' : Reader} (h : r.Leads r') (hr : r'.Shallow) : r.Shallow :=
  fun d hd => hr d (h.diagnostics.subset hd)

theorem Reader.shallow_report (r : Reader) {p : Problem} (s : Span) :
    (r.report p s).Shallow ↔ r.Shallow ∧ p.code ≠ .nestingTooDeep := by
  simp only [Shallow, report, Array.toList_push, List.mem_append, List.mem_singleton]
  exact ⟨fun h => ⟨fun d hd => h d (.inl hd), h ⟨p, s⟩ (.inr rfl)⟩,
    fun h d hd => hd.elim (h.1 d) fun hd => hd ▸ h.2⟩

theorem not_shallow_tooDeep (r : Reader) : ¬ (tooDeep r).2.Shallow :=
  fun h => ((Reader.shallow_report _ _).1 h).2 rfl

/-! ### Groups and calls in terms of what they hold -/

/-- The reader after a group with the given content, once its closing parenthesis is taken. -/
def afterGroup (content : Expr) (span : Span) (r : Reader) : Reader :=
  (if !content.isError && r.lastGroup == some content.span then
    r.report .redundantParentheses span else r).closeGroup span

@[simp] theorem afterGroup_tokens (content : Expr) (span : Span) (r : Reader) :
    (afterGroup content span r).tokens = r.tokens := by
  unfold afterGroup
  split <;> rfl

theorem afterGroup_leads (content : Expr) (span : Span) (r : Reader) :
    r.Leads (afterGroup content span r) := by
  unfold afterGroup
  split
  · exact (r.report_leads _ _).trans (Reader.closeGroup_leads _ _)
  · exact r.closeGroup_leads _

theorem afterGroup_shallow (content : Expr) (span : Span) (r : Reader) :
    (afterGroup content span r).Shallow ↔ r.Shallow := by
  unfold afterGroup
  split
  · exact (r.shallow_report span).trans (and_iff_left (by decide))
  · exact Iff.rfl

theorem group_eq (inner : ExprReader) (r : Reader) :
    group inner r =
      if (inner 0 r.advance).2.kind = .closeParen then
        ((inner 0 r.advance).1.withSpan (r.span.merge (inner 0 r.advance).2.span),
          afterGroup (inner 0 r.advance).1 (r.span.merge (inner 0 r.advance).2.span)
            (inner 0 r.advance).2.advance)
      else
        (inner 0 r.advance).2.fail (.unmatchedParenthesis r.span) "unmatched parenthesis"
          ((inner 0 r.advance).2.spanFrom r.span) :=
  rfl

theorem arguments_succ (inner : ExprReader) (n : Nat) (r : Reader) :
    arguments inner (n + 1) r =
      if (inner 0 r).2.kind = .comma then
        ((inner 0 r).1 :: (arguments inner n (inner 0 r).2.advance).1,
          (arguments inner n (inner 0 r).2.advance).2)
      else ([(inner 0 r).1], (inner 0 r).2) :=
  rfl

/-- What stands between the parentheses of a call, with the reader after the opening one. -/
def callInside (inner : ExprReader) (r : Reader) : List Expr × Reader :=
  if r.kind = .closeParen then ([], r) else arguments inner (r.tokens.length + 1) r

/-- The reader after the inside of a call whose parenthesis was opened at the given place. -/
def afterInside (opening : Span) (r : Reader) : Reader :=
  if r.kind = .closeParen then r.advance
  else r.report (.unterminatedParameters opening) (r.spanFrom opening)

theorem call_eq (inner : ExprReader) (callee : Callee) (r : Reader) :
    call inner callee r =
      (.call callee (callInside inner r.advance).1
        ⟨callee.start, (afterInside r.span (callInside inner r.advance).2).lastEnd⟩,
        afterInside r.span (callInside inner r.advance).2) :=
  rfl

section Chains

variable (inner : ExprReader) (n : Nat) {r : Reader}

theorem accessors_of_dot (h : r.kind = .dot) :
    accessors inner (n + 1) r =
      if r.advance.kind = .ident then
        (.child r.advance.token.text (r.span.merge r.advance.token.span) ::
          (accessors inner n r.advance.advance).1, (accessors inner n r.advance.advance).2)
      else ([], r.advance.report .childNameExpected r.advance.span) := by
  rw [accessors, h]

theorem accessors_of_openBracket (h : r.kind = .openBracket) :
    accessors inner (n + 1) r =
      if (inner 0 r.advance).2.kind = .closeBracket then
        (.index (inner 0 r.advance).1 (r.span.merge (inner 0 r.advance).2.span) ::
          (accessors inner n (inner 0 r.advance).2.advance).1,
          (accessors inner n (inner 0 r.advance).2.advance).2)
      else
        ([.index (inner 0 r.advance).1 ((inner 0 r.advance).2.spanFrom r.span)],
          (inner 0 r.advance).2.report (.unterminatedIndex r.span)
            ((inner 0 r.advance).2.spanFrom r.span)) := by
  rw [accessors, h]

theorem accessors_of_ne (h : r.kind ≠ .dot) (h' : r.kind ≠ .openBracket) :
    accessors inner n r = ([], r) := by
  cases n with
  | zero => rfl
  | succ n =>
    rw [accessors]
    split
    next hk => exact absurd hk h
    next hk => exact absurd hk h'
    next => rfl

theorem access_eq (name : Name) (r : Reader) :
    access inner name r =
      (.access name (accessors inner (r.tokens.length + 1) r).1
        ((accessors inner (r.tokens.length + 1) r).2.spanFrom name.span),
        (accessors inner (r.tokens.length + 1) r).2) :=
  rfl

end Chains

/-! ### The readers of the grammar -/

/-- Whether what an expression reader leaves is always further on. -/
def ExprReader.Leads (inner : ExprReader) : Prop := ∀ (s : Nat) (r : Reader), r.Leads (inner s r).2

theorem tooDeep_leads (r : Reader) : r.Leads (tooDeep r).2 :=
  (r.skip_leads _).trans (Reader.fail_leads _ _ _ _)

theorem unexpected_leads (r : Reader) : r.Leads (unexpected r).2 :=
  (r.advance_leads.trans (r.advance.skip_leads _)).trans (Reader.fail_leads _ _ _ _)

theorem missing_leads (p : Problem) (r : Reader) : r.Leads (missing p r).2 :=
  r.fail_leads _ _ _

section Parts

variable {inner : ExprReader} (hi : inner.Leads)

include hi

theorem group_leads (r : Reader) : r.Leads (group inner r).2 := by
  have h := r.advance_leads.trans (hi 0 r.advance)
  rw [group_eq]
  split
  · exact h.trans ((Reader.advance_leads _).trans (afterGroup_leads _ _ _))
  · exact h.trans (Reader.fail_leads _ _ _ _)

theorem arguments_leads (n : Nat) (r : Reader) : r.Leads (arguments inner n r).2 := by
  induction n generalizing r with
  | zero => exact .refl r
  | succ n ih =>
    rw [arguments_succ]
    split
    · exact (hi 0 r).trans ((Reader.advance_leads _).trans (ih _))
    · exact hi 0 r

theorem callInside_leads (r : Reader) : r.Leads (callInside inner r).2 := by
  unfold callInside
  split
  · exact .refl r
  · exact arguments_leads hi _ r

omit hi in
theorem afterInside_leads (opening : Span) (r : Reader) : r.Leads (afterInside opening r) := by
  unfold afterInside
  split
  · exact r.advance_leads
  · exact r.report_leads _ _

theorem call_leads (callee : Callee) (r : Reader) : r.Leads (call inner callee r).2 :=
  (r.advance_leads.trans (callInside_leads hi r.advance)).trans (afterInside_leads _ _)

theorem behaviorCall_leads (object : Name) (r : Reader) :
    r.Leads (behaviorCall inner object r).2 := by
  have h : r.Leads r.advance.advance.advance :=
    (r.advance_leads.trans (Reader.advance_leads _)).trans (Reader.advance_leads _)
  unfold behaviorCall
  dsimp only
  split
  · split
    · exact (h.trans (Reader.advance_leads _)).trans (call_leads hi _ _)
    · exact (h.trans (Reader.advance_leads _)).trans (Reader.report_leads _ _ _)
  · exact h.trans (Reader.report_leads _ _ _)

theorem accessors_leads (n : Nat) (r : Reader) : r.Leads (accessors inner n r).2 := by
  induction n generalizing r with
  | zero => exact .refl r
  | succ n ih =>
    by_cases hdot : r.kind = .dot
    · rw [accessors_of_dot inner n hdot]
      split
      · exact (r.advance_leads.trans (Reader.advance_leads _)).trans (ih r.advance.advance)
      · exact r.advance_leads.trans (Reader.report_leads _ _ _)
    by_cases hbracket : r.kind = .openBracket
    · have h := r.advance_leads.trans (hi 0 r.advance)
      rw [accessors_of_openBracket inner n hbracket]
      split
      · exact h.trans ((Reader.advance_leads _).trans (ih _))
      · exact h.trans (Reader.report_leads _ _ _)
    · rw [accessors_of_ne inner (n + 1) hdot hbracket]
      exact .refl r

theorem access_leads (name : Name) (r : Reader) : r.Leads (access inner name r).2 :=
  accessors_leads hi (r.tokens.length + 1) r

theorem named_leads (r : Reader) : r.Leads (named inner r).2 := by
  refine r.advance_leads.trans ?_
  unfold named
  dsimp only
  split
  · exact call_leads hi _ _
  · exact ((Reader.advance_leads _).trans (Reader.advance_leads _)).trans (call_leads hi _ _)
  · exact behaviorCall_leads hi _ _
  · exact access_leads hi _ _
  · exact access_leads hi _ _
  · exact .refl _

theorem primary_leads (r : Reader) : r.Leads (primary inner r).2 := by
  unfold primary
  dsimp only
  split
  · exact r.advance_leads
  · exact r.advance_leads
  · exact r.advance_leads.trans (Reader.fail_leads _ _ _ _)
  · exact group_leads hi r
  · exact named_leads hi r
  · exact missing_leads _ r
  · exact missing_leads _ r
  · exact missing_leads _ r
  · exact missing_leads _ r
  · exact unexpected_leads r

theorem operand_leads (r : Reader) : r.Leads (operand inner r).2 := by
  unfold operand
  split
  · exact r.advance_leads.trans (hi signStrength r.advance)
  · exact primary_leads hi r

end Parts

section Values

variable (inner : ExprReader) {r : Reader}

theorem operand_of_number (h : r.kind = .number) :
    operand inner r = (.number r.token.text r.token.span, r.advance) := by
  simp only [operand, primary, h, TokenKind.sign?]

theorem operand_of_string (h : r.kind = .string) :
    operand inner r = (.string (decodeText r.token.text) r.token.span, r.advance) := by
  simp only [operand, primary, h, TokenKind.sign?]

theorem operand_of_openParen (h : r.kind = .openParen) : operand inner r = group inner r := by
  simp only [operand, primary, h, TokenKind.sign?]

theorem operand_of_ident (h : r.kind = .ident) : operand inner r = named inner r := by
  simp only [operand, primary, h, TokenKind.sign?]

theorem operand_of_sign {s : Sign} (h : r.kind.sign? = some s) :
    operand inner r =
      (.unary s (inner signStrength r.advance).1
        (r.span.merge (inner signStrength r.advance).1.span),
        (inner signStrength r.advance).2) := by
  simp only [operand, h]

end Values

/-! ### Operators -/

theorem expression_succ (levels strength : Nat) (r : Reader) :
    expression (levels + 1) strength r =
      operations levels strength (operand (fun s r => expression levels s r) r).1
        (operand (fun s r => expression levels s r) r).2 :=
  rfl

section Operations

variable (levels : Nat) {strength : Nat} (left : Expr) {r : Reader}

theorem operations_of_none (h : r.kind.binding? = none) :
    operations levels strength left r = (left, r) := by
  cases levels <;> rw [operations, h]

theorem operations_of_lt {b : Binding} (h : r.kind.binding? = some b) (hb : b.left < strength) :
    operations levels strength left r = (left, r) := by
  cases levels <;> rw [operations, h] <;> exact if_pos hb

theorem operations_zero {b : Binding} (h : r.kind.binding? = some b) (hb : ¬ b.left < strength) :
    operations 0 strength left r =
      (.binary b.operator left (tooDeep r.advance).1
        (left.span.merge (tooDeep r.advance).1.span), (tooDeep r.advance).2) := by
  rw [operations, h]
  exact if_neg hb

theorem operations_succ {b : Binding} (h : r.kind.binding? = some b) (hb : ¬ b.left < strength) :
    operations (levels + 1) strength left r =
      operations levels strength
        (.binary b.operator left (expression levels b.right r.advance).1
          (left.span.merge (expression levels b.right r.advance).1.span))
        (expression levels b.right r.advance).2 := by
  rw [operations, h]
  exact if_neg hb

end Operations

mutual

theorem expression_leads : ∀ (levels strength : Nat) (r : Reader),
    r.Leads (expression levels strength r).2
  | 0, _, r => tooDeep_leads r
  | levels + 1, strength, r =>
    (operand_leads (fun s r => expression_leads levels s r) r).trans
      (operations_leads levels strength _ _)

theorem operations_leads : ∀ (levels strength : Nat) (left : Expr) (r : Reader),
    r.Leads (operations levels strength left r).2
  | levels, strength, left, r => by
    rcases hb : r.kind.binding? with _ | b
    · rw [operations_of_none levels left hb]
      exact .refl r
    by_cases hlt : b.left < strength
    · rw [operations_of_lt levels left hb hlt]
      exact .refl r
    match levels with
    | 0 =>
      rw [operations_zero left hb hlt]
      exact r.advance_leads.trans (tooDeep_leads _)
    | levels + 1 =>
      rw [operations_succ levels left hb hlt]
      exact (r.advance_leads.trans (expression_leads levels _ _)).trans
        (operations_leads levels strength _ _)

end

/-- Reading at a number of levels is a reader like those of the parts of an operand. -/
theorem leads_expression (levels : Nat) :
    ExprReader.Leads fun strength r => expression levels strength r :=
  fun s r => expression_leads levels s r

theorem closeText_leads (r : Reader) : r.Leads (closeText r) := by
  unfold closeText
  split
  · exact .refl r
  · exact (r.skip_leads _).trans (Reader.report_leads _ _ _)

end EventSheet
