import EventSheet.Proofs.Reading.Course

/-!
# The productions of reading

What a reading does, told production by production: `Reads r x q` says that from the reader `r` a
piece `x` is read which leaves the reader `q`. There is one production for every way in which the
readers of the grammar take tokens, those that recover from an error among them, and
`expression_reads` says that the readers do nothing else. What a single reading keeps is shown by
induction on `Reads`, without a look at binding strengths, levels or the order of cases.
-/

namespace EventSheet

/-- What a reader of the grammar gives: an expression, the arguments of a call or the accessors of a
variable. -/
inductive Piece
  | expr (e : Expr)
  | arguments (es : List Expr)
  | accessors (as : List Accessor)

/-- From the reader at its first name a callee is read which leaves the reader behind it. -/
inductive Heads (r : Reader) : Callee → Reader → Prop
  | free : r.kind = .ident → Heads r (.free (.ofToken r.token)) r.advance
  | onObject : r.kind = .ident → r.advance.kind = .dot → r.advance.advance.kind = .ident →
      Heads r (.onObject (.ofToken r.token) (.ofToken r.advance.advance.token))
        r.advance.advance.advance
  | onBehavior : r.kind = .ident → r.advance.kind = .dot → r.advance.advance.kind = .ident →
      r.advance.advance.advance.kind = .colonColon →
      r.advance.advance.advance.advance.kind = .ident →
      Heads r
        (.onBehavior (.ofToken r.token) (.ofToken r.advance.advance.token)
          (.ofToken r.advance.advance.advance.advance.token))
        r.advance.advance.advance.advance.advance

/-- From the first reader the piece is read which leaves the second one. -/
inductive Reads : Reader → Piece → Reader → Prop
  -- values of one token
  | number {r : Reader} : r.kind = .number →
      Reads r (.expr (.number r.token.text r.span)) r.advance
  | string {r : Reader} : r.kind = .string →
      Reads r (.expr (.string (decodeText r.token.text) r.span)) r.advance
  | name {r : Reader} : r.kind = .ident →
      Reads r (.expr (.identifier r.token.text r.span)) r.advance
  -- what cannot be read
  | unterminated {r : Reader} : r.kind = .unterminatedString →
      Reads r (.expr (r.advance.fail .unterminatedString "unterminated string" r.span).1)
        (r.advance.fail .unterminatedString "unterminated string" r.span).2
  | missing {r : Reader} {problem : Problem} : r.kind.isBoundary = true → problem.note? = none →
      problem.code = .missingOperand ∨ problem.code = .syntaxError →
      Reads r (.expr (missing problem r).1) (missing problem r).2
  | unexpected {r : Reader} : r.kind.isBoundary = false →
      Reads r (.expr (unexpected r).1) (unexpected r).2
  | tooDeep {r : Reader} : Reads r (.expr (tooDeep r).1) (tooDeep r).2
  -- groups
  | group {r q : Reader} {c : Expr} : r.kind = .openParen → Reads r.advance (.expr c) q →
      q.kind = .closeParen →
      Reads r (.expr (c.withSpan (r.span.merge q.span)))
        (afterGroup c (r.span.merge q.span) q.advance)
  | unclosed {r q : Reader} {c : Expr} : r.kind = .openParen → Reads r.advance (.expr c) q →
      q.kind ≠ .closeParen →
      Reads r
        (.expr (q.fail (.unmatchedParenthesis r.span) "unmatched parenthesis"
          (q.spanFrom r.span)).1)
        (q.fail (.unmatchedParenthesis r.span) "unmatched parenthesis" (q.spanFrom r.span)).2
  -- operators
  | signed {r q : Reader} {s : Sign} {v : Expr} : r.kind.sign? = some s →
      Reads r.advance (.expr v) q → Reads r (.expr (.unary s v (r.span.merge v.span))) q
  | operation {r p q : Reader} {a c : Expr} {b : Binding} : Reads r (.expr a) p →
      p.kind.binding? = some b → Reads p.advance (.expr c) q →
      Reads r (.expr (.binary b.operator a c (a.span.merge c.span))) q
  -- calls
  | emptyCall {r p : Reader} {callee : Callee} : Heads r callee p → p.kind = .openParen →
      p.advance.kind = .closeParen →
      Reads r (.expr (.call callee [] ⟨callee.start, p.advance.advance.lastEnd⟩)) p.advance.advance
  | call {r p q : Reader} {callee : Callee} {es : List Expr} : Heads r callee p →
      p.kind = .openParen → p.advance.kind ≠ .closeParen → Reads p.advance (.arguments es) q →
      Reads r (.expr (.call callee es ⟨callee.start, (afterInside p.span q).lastEnd⟩))
        (afterInside p.span q)
  | bareCall {r p : Reader} {object behavior function : Name} :
      Heads r (.onBehavior object behavior function) p → p.kind ≠ .openParen →
      Reads r
        (.expr (.call (.onBehavior object behavior function) []
          (object.span.merge function.span)))
        (p.report .callParenthesisExpected p.span)
  | noFunction {r p : Reader} : r.kind = .ident → r.advance.kind = .dot →
      r.advance.advance.kind = .ident → r.advance.advance.advance.kind = .colonColon →
      p = r.advance.advance.advance.advance → p.kind ≠ .ident →
      Reads r (.expr (p.errorNode "missing behavior function" ⟨r.span.start, p.lastEnd⟩))
        (p.report .behaviorFunctionExpected p.span)
  | lastArgument {r q : Reader} {e : Expr} : Reads r (.expr e) q → q.kind ≠ .comma →
      Reads r (.arguments [e]) q
  | argument {r p q : Reader} {e : Expr} {es : List Expr} : Reads r (.expr e) p →
      p.kind = .comma → Reads p.advance (.arguments es) q → Reads r (.arguments (e :: es)) q
  -- variables
  | access {r q : Reader} {as : List Accessor} : r.kind = .ident →
      r.advance.kind = .dot ∨ r.advance.kind = .openBracket → Reads r.advance (.accessors as) q →
      Reads r (.expr (.access (.ofToken r.token) as (q.spanFrom r.span))) q
  | noAccessor {r : Reader} : r.kind ≠ .dot → r.kind ≠ .openBracket → Reads r (.accessors []) r
  | noChild {r : Reader} : r.kind = .dot → r.advance.kind ≠ .ident →
      Reads r (.accessors []) (r.advance.report .childNameExpected r.advance.span)
  | child {r q : Reader} {as : List Accessor} : r.kind = .dot → r.advance.kind = .ident →
      Reads r.advance.advance (.accessors as) q →
      Reads r (.accessors (.child r.advance.token.text (r.span.merge r.advance.span) :: as)) q
  | index {r p q : Reader} {e : Expr} {as : List Accessor} : r.kind = .openBracket →
      Reads r.advance (.expr e) p → p.kind = .closeBracket → Reads p.advance (.accessors as) q →
      Reads r (.accessors (.index e (r.span.merge p.span) :: as)) q
  | openIndex {r q : Reader} {e : Expr} : r.kind = .openBracket → Reads r.advance (.expr e) q →
      q.kind ≠ .closeBracket →
      Reads r (.accessors [.index e (q.spanFrom r.span)])
        (q.report (.unterminatedIndex r.span) (q.spanFrom r.span))

/-- Whether an expression reader does nothing but what the productions say. -/
def ExprReader.Reads (inner : ExprReader) : Prop :=
  ∀ (s : Nat) (r : Reader), EventSheet.Reads r (.expr (inner s r).1) (inner s r).2

section Parts

variable {inner : ExprReader} (hi : inner.Reads)

include hi

theorem group_reads {r : Reader} (hk : r.kind = .openParen) :
    Reads r (.expr (group inner r).1) (group inner r).2 := by
  rw [group_eq]
  split
  next hclose => exact .group hk (hi 0 r.advance) hclose
  next hclose => exact .unclosed hk (hi 0 r.advance) hclose

/-- There are enough steps for all arguments, since every argument but the last takes a comma. -/
theorem arguments_reads (hl : inner.Leads) {n : Nat} {r : Reader} (hn : r.tokens.length < n) :
    Reads r (.arguments (arguments inner n r).1) (arguments inner n r).2 := by
  induction n generalizing r with
  | zero => exact absurd hn (Nat.not_lt_zero _)
  | succ n ih =>
    rw [arguments_succ]
    split
    next hcomma =>
      refine .argument (hi 0 r) hcomma (ih ?_)
      obtain ⟨t, ts, htok, -⟩ := Reader.exists_tokens_of_kind hcomma (by decide)
      have hlen := (hl 0 r).tokens.length_le
      rw [htok, List.length_cons] at hlen
      rw [Reader.advance_tokens_eq htok]
      omega
    next hcomma => exact .lastArgument (hi 0 r) hcomma

theorem call_reads (hl : inner.Leads) {r p : Reader} {callee : Callee} (hh : Heads r callee p)
    (hk : p.kind = .openParen) :
    Reads r (.expr (call inner callee p).1) (call inner callee p).2 := by
  rw [call_eq, callInside]
  split
  next hclose =>
    have hafter : afterInside p.span p.advance = p.advance.advance := if_pos hclose
    rw [hafter]
    exact .emptyCall hh hk hclose
  next hclose => exact .call hh hk hclose (arguments_reads hi hl (Nat.lt_succ_self _))

theorem behaviorCall_reads (hl : inner.Leads) {r : Reader} (hk : r.kind = .ident)
    (hdot : r.advance.kind = .dot) (hbehavior : r.advance.advance.kind = .ident)
    (hcolons : r.advance.advance.advance.kind = .colonColon) :
    Reads r (.expr (behaviorCall inner (.ofToken r.token) r.advance).1)
      (behaviorCall inner (.ofToken r.token) r.advance).2 := by
  unfold behaviorCall
  dsimp only
  split
  next hfunction =>
    have hh := Heads.onBehavior hk hdot hbehavior hcolons hfunction
    split
    next hopen => exact call_reads hi hl hh hopen
    next hopen => exact .bareCall hh hopen
  next hfunction => exact .noFunction hk hdot hbehavior hcolons rfl hfunction

/-- There are enough steps for all accessors, since every accessor takes a token. -/
theorem accessors_reads (hl : inner.Leads) {n : Nat} {r : Reader} (hn : r.tokens.length < n) :
    Reads r (.accessors (accessors inner n r).1) (accessors inner n r).2 := by
  induction n generalizing r with
  | zero => exact absurd hn (Nat.not_lt_zero _)
  | succ n ih =>
    by_cases hdot : r.kind = .dot
    · obtain ⟨t, ts, htok, -⟩ := Reader.exists_tokens_of_kind hdot (by decide)
      rw [htok, List.length_cons] at hn
      rw [accessors_of_dot inner n hdot]
      split
      next hname =>
        refine .child hdot hname (ih ?_)
        have hlen := r.advance.advance_leads.tokens.length_le
        rw [Reader.advance_tokens_eq htok] at hlen
        omega
      next hname => exact .noChild hdot hname
    by_cases hopen : r.kind = .openBracket
    · obtain ⟨t, ts, htok, -⟩ := Reader.exists_tokens_of_kind hopen (by decide)
      rw [htok, List.length_cons] at hn
      have hlen := (hl 0 r.advance).tokens.length_le
      rw [Reader.advance_tokens_eq htok] at hlen
      rw [accessors_of_openBracket inner n hopen]
      split
      next hclose =>
        refine .index hopen (hi 0 r.advance) hclose (ih ?_)
        have hrest := (Reader.advance_leads (inner 0 r.advance).2).tokens.length_le
        omega
      next hclose => exact .openIndex hopen (hi 0 r.advance) hclose
    · rw [accessors_of_ne inner (n + 1) hdot hopen]
      exact .noAccessor hdot hopen

theorem access_reads (hl : inner.Leads) {r : Reader} (hk : r.kind = .ident)
    (hnext : r.advance.kind = .dot ∨ r.advance.kind = .openBracket) :
    Reads r (.expr (access inner (.ofToken r.token) r.advance).1)
      (access inner (.ofToken r.token) r.advance).2 :=
  .access hk hnext (accessors_reads hi hl (Nat.lt_succ_self _))

theorem named_reads (hl : inner.Leads) {r : Reader} (hk : r.kind = .ident) :
    Reads r (.expr (named inner r).1) (named inner r).2 := by
  unfold named
  dsimp only
  split
  next hnext => exact call_reads hi hl (.free hk) hnext
  next h0 h1 h2 =>
    rw [Reader.kindAt_succ] at h1 h2
    rw [Reader.kindAt_succ] at h2
    exact call_reads hi hl (.onObject hk h0 h1) h2
  next h0 h1 h2 =>
    rw [Reader.kindAt_succ] at h1 h2
    rw [Reader.kindAt_succ] at h2
    exact behaviorCall_reads hi hl hk h0 h1 h2
  next hnext _ _ => exact access_reads hi hl hk (.inl hnext)
  next hnext => exact access_reads hi hl hk (.inr hnext)
  next => exact .name hk

theorem primary_reads (hl : inner.Leads) (r : Reader) :
    Reads r (.expr (primary inner r).1) (primary inner r).2 := by
  unfold primary
  dsimp only
  split
  next h => exact .number h
  next h => exact .string h
  next h => exact .unterminated h
  next h => exact group_reads hi h
  next h => exact named_reads hi hl h
  next h => exact .missing (by rw [h]; rfl) rfl (.inl rfl)
  next h => exact .missing (by rw [h]; rfl) rfl (.inl rfl)
  next h => exact .missing (by rw [h]; rfl) rfl (.inr rfl)
  next h => exact .missing (by rw [h]; rfl) rfl (.inr rfl)
  next =>
    apply Reads.unexpected
    cases h : r.kind <;> first | rfl | contradiction

theorem operand_reads (hl : inner.Leads) (r : Reader) :
    Reads r (.expr (operand inner r).1) (operand inner r).2 := by
  cases hs : r.kind.sign? with
  | some s =>
    rw [operand_of_sign inner hs]
    exact .signed hs (hi signStrength r.advance)
  | none =>
    simp only [operand, hs]
    exact primary_reads hi hl r

end Parts

mutual

/-- Reading an expression does nothing but what the productions say. -/
theorem expression_reads : ∀ (levels strength : Nat) (r : Reader),
    Reads r (.expr (expression levels strength r).1) (expression levels strength r).2
  | 0, _, _ => .tooDeep
  | levels + 1, strength, r =>
    operations_reads levels strength
      (operand_reads (fun s r => expression_reads levels s r) (leads_expression levels) r)

theorem operations_reads : ∀ (levels strength : Nat) {left : Expr} {r p : Reader},
    Reads r (.expr left) p →
      Reads r (.expr (operations levels strength left p).1) (operations levels strength left p).2
  | levels, strength, left, r, p, h => by
    rcases hb : p.kind.binding? with _ | b
    · rw [operations_of_none levels left hb]
      exact h
    by_cases hlt : b.left < strength
    · rw [operations_of_lt levels left hb hlt]
      exact h
    match levels with
    | 0 =>
      rw [operations_zero left hb hlt]
      exact .operation h hb .tooDeep
    | levels + 1 =>
      rw [operations_succ levels left hb hlt]
      exact operations_reads levels strength
        (.operation h hb (expression_reads levels b.right p.advance))

end

theorem Heads.leads {r p : Reader} {callee : Callee} (h : Heads r callee p) : r.Leads p := by
  have hnext := r.advance_leads
  cases h with
  | free => exact hnext
  | onObject => exact (hnext.trans (Reader.advance_leads _)).trans (Reader.advance_leads _)
  | onBehavior =>
    have hbehavior := (hnext.trans (Reader.advance_leads _)).trans (Reader.advance_leads _)
    exact (hbehavior.trans (Reader.advance_leads _)).trans (Reader.advance_leads _)

/-- A production leaves a reader that stands further on. -/
theorem Reads.leads {r q : Reader} {x : Piece} (h : Reads r x q) : r.Leads q := by
  induction h with
  | number | string | name => exact Reader.advance_leads _
  | unterminated => exact (Reader.advance_leads _).trans (Reader.fail_leads _ _ _ _)
  | missing => exact missing_leads _ _
  | unexpected => exact unexpected_leads _
  | tooDeep => exact tooDeep_leads _
  | group _ _ _ ih =>
    have h := (Reader.advance_leads _).trans ih
    exact h.trans ((Reader.advance_leads _).trans (afterGroup_leads _ _ _))
  | unclosed _ _ _ ih =>
    exact ((Reader.advance_leads _).trans ih).trans (Reader.fail_leads _ _ _ _)
  | signed _ _ ih | access _ _ _ ih => exact (Reader.advance_leads _).trans ih
  | operation _ _ _ iha ihc | argument _ _ _ iha ihc =>
    exact (iha.trans (Reader.advance_leads _)).trans ihc
  | emptyCall hh =>
    exact (hh.leads.trans (Reader.advance_leads _)).trans (Reader.advance_leads _)
  | call hh _ _ _ ih =>
    exact ((hh.leads.trans (Reader.advance_leads _)).trans ih).trans (afterInside_leads _ _)
  | bareCall hh => exact hh.leads.trans (Reader.report_leads _ _ _)
  | @noFunction r _ _ _ _ _ hp =>
    have hbehavior :=
      (r.advance_leads.trans (Reader.advance_leads _)).trans (Reader.advance_leads _)
    rw [hp]
    exact (hbehavior.trans (Reader.advance_leads _)).trans (Reader.report_leads _ _ _)
  | lastArgument _ _ ih => exact ih
  | noAccessor => exact .refl _
  | noChild => exact (Reader.advance_leads _).trans (Reader.report_leads _ _ _)
  | child _ _ _ ih => exact ((Reader.advance_leads _).trans (Reader.advance_leads _)).trans ih
  | index _ _ _ _ ihe ihas =>
    exact (((Reader.advance_leads _).trans ihe).trans (Reader.advance_leads _)).trans ihas
  | openIndex _ _ _ ih =>
    exact ((Reader.advance_leads _).trans ih).trans (Reader.report_leads _ _ _)

/-! ### What is reported -/

/-- Whether everything reported so far has a property. -/
def Reader.Reported (P : Diagnostic → Prop) (r : Reader) : Prop := ∀ d ∈ r.diagnostics.toList, P d

section Reported

variable {P : Diagnostic → Prop} {r p : Reader}

theorem Reader.Reported.advance (h : r.Reported P) : r.advance.Reported P := by
  rw [Reader.Reported, Reader.advance_diagnostics]
  exact h

theorem Reader.Reported.skip (h : r.Reported P) (n : Nat) : (Reader.skip n r).Reported P := by
  rw [Reader.Reported, Reader.skip_diagnostics]
  exact h

theorem Reader.Reported.report (h : r.Reported P) {problem : Problem} {s : Span}
    (hd : P ⟨problem, s⟩) : (r.report problem s).Reported P := by
  intro d hmem
  have hmem : d ∈ (r.diagnostics.push ⟨problem, s⟩).toList := hmem
  rw [Array.toList_push, List.mem_append, List.mem_singleton] at hmem
  rcases hmem with hmem | rfl
  · exact h d hmem
  · exact hd

theorem Reader.Reported.afterGroup (h : r.Reported P) {s : Span}
    (hd : P ⟨.redundantParentheses, s⟩) (content : Expr) :
    (EventSheet.afterGroup content s r).Reported P := by
  unfold EventSheet.afterGroup
  split
  · exact h.report hd
  · exact h

theorem Reader.Reported.afterInside (h : r.Reported P) {opening : Span}
    (hd : P ⟨.unterminatedParameters opening, r.spanFrom opening⟩) :
    (EventSheet.afterInside opening r).Reported P := by
  unfold EventSheet.afterInside
  split
  · exact h.advance
  · exact h.report hd

theorem Heads.reported {callee : Callee} (hh : Heads r callee p) (h : r.Reported P) :
    p.Reported P := by
  cases hh with
  | free => exact h.advance
  | onObject => exact h.advance.advance.advance
  | onBehavior => exact h.advance.advance.advance.advance.advance

/-- What is left of a text is reported once, as a parenthesis too many or as extra characters. -/
theorem Reader.Reported.closeText (h : r.Reported P)
    (hd : ∀ problem ∈ [Problem.unexpectedClosingParenthesis, .extraCharacters],
      P ⟨problem, (Reader.skip r.tokens.length r).spanFrom (Span.point r.span.start)⟩) :
    (EventSheet.closeText r).Reported P := by
  unfold EventSheet.closeText
  split
  · exact h
  · refine (h.skip _).report (hd _ ?_)
    split <;> simp

end Reported

end EventSheet
