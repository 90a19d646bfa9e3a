import EventSheet.Proofs.Lexing.Spacing
import EventSheet.Proofs.Reading.Placement
import EventSheet.Proofs.Syntax.Forms

/-!
# Readings of the same tokens

Two readers are alike when the same tokens are before them and the same problems behind them, places
aside. Alike readers read alike: `expression_alike`. The only thing that reading asks of places is
whether the group closed last is all that a group holds, and the answer depends on the tokens alone:
an expression that could be read has the span of the group closed last exactly when it is that
group.
-/

namespace EventSheet

/-! ### Alike readers -/

/-- The same tokens are before both readers and the same problems behind them, places aside. -/
structure Reader.Alike (r r' : Reader) : Prop where
  laid : r.Laid
  laid' : r'.Laid
  tokens : r.tokens.map Token.form = r'.tokens.map Token.form
  problems : r.diagnostics.toList.map (·.problem.form) =
    r'.diagnostics.toList.map (·.problem.form)

section

variable {r r' : Reader}

theorem Reader.kindAt_eq_getD (r : Reader) (n : Nat) :
    r.kindAt n = (r.tokens.map (·.kind))[n]?.getD .eof := by
  unfold kindAt
  rw [List.getElem?_map]
  cases r.tokens[n]? <;> rfl

theorem Reader.token_text_eq_getD (r : Reader) :
    r.token.text = ((r.tokens.map Token.form).head?.map Prod.snd).getD "" := by
  unfold token
  cases r.tokens <;> rfl

namespace Reader.Alike

theorem length_eq (h : r.Alike r') : r.tokens.length = r'.tokens.length := by
  have hlen := congrArg List.length h.tokens
  rwa [List.length_map, List.length_map] at hlen

theorem kinds_eq (h : r.Alike r') : r.tokens.map (·.kind) = r'.tokens.map (·.kind) := by
  have hkinds := congrArg (List.map Prod.fst) h.tokens
  rwa [List.map_map, List.map_map] at hkinds

theorem kindAt_eq (h : r.Alike r') (n : Nat) : r.kindAt n = r'.kindAt n := by
  rw [kindAt_eq_getD, kindAt_eq_getD, h.kinds_eq]

theorem kind_eq (h : r.Alike r') : r.kind = r'.kind := h.kindAt_eq 0

theorem text_eq (h : r.Alike r') : r.token.text = r'.token.text := by
  rw [token_text_eq_getD, token_text_eq_getD, h.tokens]

theorem advance (h : r.Alike r') : r.advance.Alike r'.advance := by
  refine ⟨h.laid.advance, h.laid'.advance, ?_, ?_⟩
  · have htail : ∀ r : Reader, r.advance.tokens = r.tokens.tail := by
      intro r
      unfold Reader.advance
      split
      next hnil => rw [hnil]; rfl
      next hcons => rw [hcons]; rfl
    rw [htail, htail, List.map_tail, List.map_tail, h.tokens]
  · rw [advance_diagnostics, advance_diagnostics]
    exact h.problems

theorem skip (h : r.Alike r') (n : Nat) : (Reader.skip n r).Alike (Reader.skip n r') := by
  induction n generalizing r r' with
  | zero => exact h
  | succ n ih => exact ih h.advance

theorem report (h : r.Alike r') {p p' : Problem} (hp : p.form = p'.form) (s s' : Span) :
    (r.report p s).Alike (r'.report p' s') := by
  refine ⟨h.laid.report p s, h.laid'.report p' s', h.tokens, ?_⟩
  simp only [Reader.report, Array.toList_push, List.map_append, List.map_cons, List.map_nil, hp,
    h.problems]

theorem closeGroup (h : r.Alike r') {s s' : Span} (hs : s.stop ≤ r.lastEnd)
    (hs' : s'.stop ≤ r'.lastEnd) : (r.closeGroup s).Alike (r'.closeGroup s') :=
  ⟨h.laid.closeGroup hs, h.laid'.closeGroup hs', h.tokens, h.problems⟩

/-- Alike names are written at alike readers. -/
theorem name_eq (h : r.Alike r') : (Name.ofToken r.token).form = (Name.ofToken r'.token).form := by
  rw [Name.form, Name.form, Name.ofToken, Name.ofToken, h.text_eq]

end Reader.Alike

end

/-! ### Skipped tokens -/

theorem length_levelRun_of_kinds {ts ts' : List Token}
    (h : ts.map (·.kind) = ts'.map (·.kind)) (opened : Nat) :
    (levelRun opened ts).length = (levelRun opened ts').length := by
  induction ts generalizing ts' opened with
  | nil =>
    cases ts' with
    | nil => rfl
    | cons => exact nomatch h
  | cons t ts ih =>
    cases ts' with
    | nil => exact nomatch h
    | cons t' ts' =>
      obtain ⟨hkind, hrest⟩ := List.cons.inj h
      have hkind : t.kind = t'.kind := hkind
      rw [levelRun, levelRun, hkind]
      cases t'.kind with
      | eof => rfl
      | openParen | openBracket => rw [List.length_cons, List.length_cons, ih hrest]
      | closeParen | closeBracket | comma =>
        dsimp only
        split
        · rfl
        · rw [List.length_cons, List.length_cons, ih hrest]
      | _ => rw [List.length_cons, List.length_cons, ih hrest]

theorem length_operandRun_of_kinds {ts ts' : List Token}
    (h : ts.map (·.kind) = ts'.map (·.kind)) :
    (operandRun ts).length = (operandRun ts').length := by
  have hrun : ∀ ts : List Token, (operandRun ts).length =
      ((ts.map (·.kind)).takeWhile fun k => !k.isBoundary && !k.isOperator).length := by
    intro ts
    rw [List.takeWhile_map, List.length_map]
    rfl
  rw [hrun, hrun, h]

/-! ### Alike readings -/

/-- Two readings give the same tree, places aside, and leave alike readers. When the tree could be
read, it has the span of the group closed last in both or in none. -/
structure AlikeReadings (p p' : Expr × Reader) : Prop where
  form : p.1.form = p'.1.form
  readers : p.2.Alike p'.2
  group : p.1.isError = false → (p.2.lastGroup = some p.1.span ↔ p'.2.lastGroup = some p'.1.span)

/-- Whether an expression reader reads alike from alike readers. -/
def ExprReader.Alike (inner : ExprReader) : Prop :=
  ∀ (s : Nat) {r r' : Reader}, r.Alike r' → AlikeReadings (inner s r) (inner s r')

section Failures

variable {r r' : Reader}

/-- Where nothing could be read, nothing is asked of the group closed last. -/
theorem Reader.Alike.fail (h : r.Alike r') {p p' : Problem} (hp : p.form = p'.form)
    (reason : String) (s s' : Span) : AlikeReadings (r.fail p reason s) (r'.fail p' reason s') :=
  ⟨rfl, h.report hp s s', nofun⟩

theorem tooDeep_alike (h : r.Alike r') : AlikeReadings (tooDeep r) (tooDeep r') := by
  have hlen := length_levelRun_of_kinds h.kinds_eq 0
  unfold tooDeep
  rw [hlen]
  exact (h.skip _).fail rfl _ _ _

theorem Reader.token_kind (r : Reader) : r.token.kind = r.kind := by
  cases htok : r.tokens with
  | nil => rw [kind_eq_eof htok, token, htok]; rfl
  | cons t ts => rw [kind_eq htok, token_eq htok]

theorem unexpected_alike (h : r.Alike r') : AlikeReadings (unexpected r) (unexpected r') := by
  have hlen := length_operandRun_of_kinds h.advance.kinds_eq
  have hkind : r.token.kind = r'.token.kind := by
    rw [r.token_kind, r'.token_kind, h.kind_eq]
  unfold unexpected
  dsimp only
  rw [hlen, hkind]
  exact (h.advance.skip _).fail rfl _ _ _

theorem missing_alike (h : r.Alike r') (problem : Problem) :
    AlikeReadings (missing problem r) (missing problem r') :=
  h.fail rfl _ _ _

end Failures

section Groups

variable {q q' : Reader} {c c' : Expr} {s s' : Span}

/-- Whether a group is redundant is a matter of what it holds and of the group closed last. -/
theorem Reader.Alike.afterGroup (hq : q.Alike q') (hform : c.form = c'.form)
    (hgroup : c.isError = false → (q.lastGroup = some c.span ↔ q'.lastGroup = some c'.span))
    (hs : s.stop ≤ q.lastEnd) (hs' : s'.stop ≤ q'.lastEnd) :
    (afterGroup c s q).Alike (afterGroup c' s' q') := by
  have hwhole : (!c.isError && q.lastGroup == some c.span) =
      (!c'.isError && q'.lastGroup == some c'.span) := by
    rw [← Expr.isError_eq_of_form hform, Bool.eq_iff_iff]
    cases he : c.isError with
    | true => simp
    | false => simpa using hgroup he
  unfold EventSheet.afterGroup
  rw [hwhole]
  split
  · exact (hq.report rfl s s').closeGroup hs hs'
  · exact hq.closeGroup hs hs'

end Groups

/-- What begins with no parenthesis and could be read is no group, whichever way it is read. -/
theorem AlikeReadings.of_ne {r r' : Reader} {p p' : Expr × Reader} (h : r.Alike r')
    (hk : r.kind ≠ .openParen) (hp : Reads r (.expr p.1) p.2) (hp' : Reads r' (.expr p'.1) p'.2)
    (hform : p.1.form = p'.1.form) (hreaders : p.2.Alike p'.2) : AlikeReadings p p' := by
  refine ⟨hform, hreaders, ?_⟩
  intro he
  have he' : p'.1.isError = false := by rw [← Expr.isError_eq_of_form hform, he]
  have hk' : r'.kind ≠ .openParen := by rw [← h.kind_eq]; exact hk
  exact iff_of_false (hp.lastGroup_ne h.laid hk he) (hp'.lastGroup_ne h.laid' hk' he')

section Parts

variable {inner : ExprReader} (hi : inner.Alike) {r r' : Reader}

include hi

theorem group_alike (hreads : inner.Reads) (h : r.Alike r') (hk : r.kind = .openParen) :
    AlikeReadings (group inner r) (group inner r') := by
  have hk' : r'.kind = .openParen := by rw [← h.kind_eq, hk]
  have hinside := hi 0 h.advance
  rw [group_eq, group_eq]
  by_cases hclose : (inner 0 r.advance).2.kind = .closeParen
  · have hclose' : (inner 0 r'.advance).2.kind = .closeParen := by
      rw [← hinside.readers.kind_eq, hclose]
    have hgroup := (Reads.group hk (hreads 0 r.advance) hclose).follows h.laid
    have hgroup' := (Reads.group hk' (hreads 0 r'.advance) hclose').follows h.laid'
    have hstop := hgroup.laid.group _ rfl
    have hstop' := hgroup'.laid.group _ rfl
    rw [afterGroup_lastEnd] at hstop hstop'
    rw [if_pos hclose, if_pos hclose']
    refine ⟨?_, ?_, ?_⟩
    · rw [Expr.form_withSpan, Expr.form_withSpan, hinside.form]
    · refine hinside.readers.advance.afterGroup hinside.form ?_ hstop hstop'
      rw [Reader.advance_lastGroup, Reader.advance_lastGroup]
      exact hinside.group
    · intro _
      rw [afterGroup_lastGroup, afterGroup_lastGroup, Expr.span_withSpan, Expr.span_withSpan]
      exact iff_of_true rfl rfl
  · have hclose' : (inner 0 r'.advance).2.kind ≠ .closeParen := by
      rw [← hinside.readers.kind_eq]
      exact hclose
    rw [if_neg hclose, if_neg hclose']
    exact hinside.readers.fail (by rfl) _ _ _

theorem arguments_alike (n : Nat) (h : r.Alike r') :
    argumentForms (arguments inner n r).1 = argumentForms (arguments inner n r').1 ∧
      (arguments inner n r).2.Alike (arguments inner n r').2 := by
  induction n generalizing r r' with
  | zero => exact ⟨rfl, h⟩
  | succ n ih =>
    have hfirst := hi 0 h
    rw [arguments_succ, arguments_succ]
    by_cases hcomma : (inner 0 r).2.kind = .comma
    · have hcomma' : (inner 0 r').2.kind = .comma := by rw [← hfirst.readers.kind_eq, hcomma]
      obtain ⟨hforms, hend⟩ := ih hfirst.readers.advance
      rw [if_pos hcomma, if_pos hcomma']
      refine ⟨?_, hend⟩
      rw [argumentForms, argumentForms, hfirst.form, hforms]
    · have hcomma' : (inner 0 r').2.kind ≠ .comma := by
        rw [← hfirst.readers.kind_eq]
        exact hcomma
      rw [if_neg hcomma, if_neg hcomma']
      refine ⟨?_, hfirst.readers⟩
      rw [argumentForms, argumentForms, hfirst.form]
      rfl

theorem callInside_alike (h : r.Alike r') :
    argumentForms (callInside inner r).1 = argumentForms (callInside inner r').1 ∧
      (callInside inner r).2.Alike (callInside inner r').2 := by
  unfold callInside
  rw [← h.kind_eq, ← h.length_eq]
  split
  · exact ⟨rfl, h⟩
  · exact arguments_alike hi _ h

omit hi in
theorem afterInside_alike (h : r.Alike r') (opening opening' : Span) :
    (afterInside opening r).Alike (afterInside opening' r') := by
  unfold afterInside
  rw [← h.kind_eq]
  split
  · exact h.advance
  · exact h.report (by rfl) _ _

/-- A call is written alike, aside from whether it is the group closed last. -/
theorem call_alike {callee callee' : Callee} (hcallee : callee.form = callee'.form)
    (h : r.Alike r') :
    (call inner callee r).1.form = (call inner callee' r').1.form ∧
      (call inner callee r).2.Alike (call inner callee' r').2 := by
  obtain ⟨hforms, hend⟩ := callInside_alike hi h.advance
  rw [call_eq, call_eq]
  refine ⟨?_, afterInside_alike hend _ _⟩
  rw [Expr.form, Expr.form, hcallee, hforms]

theorem behaviorCall_alike {object object' : Name} (hobject : object.form = object'.form)
    (h : r.Alike r') :
    (behaviorCall inner object r).1.form = (behaviorCall inner object' r').1.form ∧
      (behaviorCall inner object r).2.Alike (behaviorCall inner object' r').2 := by
  have hfunction := h.advance.advance.advance
  have hcallee : (Callee.onBehavior object (.ofToken r.advance.token)
      (.ofToken r.advance.advance.advance.token)).form =
      (Callee.onBehavior object' (.ofToken r'.advance.token)
        (.ofToken r'.advance.advance.advance.token)).form := by
    rw [Callee.form, Callee.form, hobject, h.advance.name_eq, hfunction.name_eq]
  unfold behaviorCall
  dsimp only
  rw [← hfunction.kind_eq, ← hfunction.advance.kind_eq]
  split
  · split
    · exact call_alike hi hcallee hfunction.advance
    · refine ⟨?_, hfunction.advance.report rfl _ _⟩
      rw [Expr.form, Expr.form, hcallee]
  · exact ⟨rfl, hfunction.report rfl _ _⟩

theorem accessors_alike (n : Nat) (h : r.Alike r') :
    accessorForms (accessors inner n r).1 = accessorForms (accessors inner n r').1 ∧
      (accessors inner n r).2.Alike (accessors inner n r').2 := by
  induction n generalizing r r' with
  | zero => exact ⟨rfl, h⟩
  | succ n ih =>
    have hnext := h.advance
    by_cases hdot : r.kind = .dot
    · have hdot' : r'.kind = .dot := by rw [← h.kind_eq, hdot]
      rw [accessors_of_dot inner n hdot, accessors_of_dot inner n hdot', ← hnext.kind_eq]
      split
      · obtain ⟨hforms, hend⟩ := ih hnext.advance
        refine ⟨?_, hend⟩
        rw [accessorForms, accessorForms, hnext.text_eq, hforms]
      · exact ⟨rfl, hnext.report rfl _ _⟩
    by_cases hopen : r.kind = .openBracket
    · have hopen' : r'.kind = .openBracket := by rw [← h.kind_eq, hopen]
      have hindex := hi 0 hnext
      rw [accessors_of_openBracket inner n hopen, accessors_of_openBracket inner n hopen',
        ← hindex.readers.kind_eq]
      split
      · obtain ⟨hforms, hend⟩ := ih hindex.readers.advance
        refine ⟨?_, hend⟩
        rw [accessorForms, accessorForms, hindex.form, hforms]
      · refine ⟨?_, hindex.readers.report (by rfl) _ _⟩
        rw [accessorForms, accessorForms, hindex.form]
        rfl
    · have hdot' : r'.kind ≠ .dot := by rw [← h.kind_eq]; exact hdot
      have hopen' : r'.kind ≠ .openBracket := by rw [← h.kind_eq]; exact hopen
      rw [accessors_of_ne inner (n + 1) hdot hopen, accessors_of_ne inner (n + 1) hdot' hopen']
      exact ⟨rfl, h⟩

theorem access_alike {name name' : Name} (hname : name.form = name'.form) (h : r.Alike r') :
    (access inner name r).1.form = (access inner name' r').1.form ∧
      (access inner name r).2.Alike (access inner name' r').2 := by
  obtain ⟨hforms, hend⟩ := accessors_alike hi (r.tokens.length + 1) h
  rw [access_eq, access_eq, ← h.length_eq]
  refine ⟨?_, hend⟩
  rw [Expr.form, Expr.form, hname, hforms]

theorem named_alike (h : r.Alike r') :
    (named inner r).1.form = (named inner r').1.form ∧
      (named inner r).2.Alike (named inner r').2 := by
  have hnext := h.advance
  have hfunction := hnext.advance
  unfold named
  dsimp only
  rw [← hnext.kindAt_eq 0, ← hnext.kindAt_eq 1, ← hnext.kindAt_eq 2]
  split
  · refine call_alike hi ?_ hnext
    rw [Callee.form, Callee.form, h.name_eq]
  · refine call_alike hi ?_ hfunction.advance
    rw [Callee.form, Callee.form, h.name_eq, hfunction.name_eq]
  · exact behaviorCall_alike hi h.name_eq hnext
  · exact access_alike hi h.name_eq hnext
  · exact access_alike hi h.name_eq hnext
  · refine ⟨?_, hnext⟩
    rw [Expr.form, Expr.form, Name.ofToken, Name.ofToken, h.text_eq]

theorem primary_alike (hreads : inner.Reads) (hl : inner.Leads) (h : r.Alike r') :
    AlikeReadings (primary inner r) (primary inner r') := by
  by_cases hk : r.kind = .openParen
  · have hk' : r'.kind = .openParen := by rw [← h.kind_eq, hk]
    have hgroup := group_alike hi hreads h hk
    simpa only [primary, hk, hk'] using hgroup
  have hforms : (primary inner r).1.form = (primary inner r').1.form ∧
      (primary inner r).2.Alike (primary inner r').2 := by
    have hmissing := missing_alike h
    unfold primary
    dsimp only
    rw [← h.kind_eq]
    split
    · exact ⟨by rw [Expr.form, Expr.form, h.text_eq], h.advance⟩
    · exact ⟨by rw [Expr.form, Expr.form, h.text_eq], h.advance⟩
    · exact ⟨rfl, h.advance.report rfl _ _⟩
    next hopen => exact absurd hopen hk
    · exact named_alike hi h
    · exact ⟨(hmissing _).form, (hmissing _).readers⟩
    · exact ⟨(hmissing _).form, (hmissing _).readers⟩
    · exact ⟨(hmissing _).form, (hmissing _).readers⟩
    · exact ⟨(hmissing _).form, (hmissing _).readers⟩
    · exact ⟨(unexpected_alike h).form, (unexpected_alike h).readers⟩
  exact .of_ne h hk (primary_reads hreads hl r) (primary_reads hreads hl r') hforms.1 hforms.2

theorem operand_alike (hreads : inner.Reads) (hl : inner.Leads) (h : r.Alike r') :
    AlikeReadings (operand inner r) (operand inner r') := by
  cases hs : r.kind.sign? with
  | some s =>
    have hs' : r'.kind.sign? = some s := by rw [← h.kind_eq, hs]
    have hk : r.kind ≠ .openParen := by
      intro hk
      rw [hk] at hs
      exact nomatch hs
    have hvalue := hi signStrength h.advance
    refine .of_ne h hk (operand_reads hreads hl r) (operand_reads hreads hl r') ?_ ?_
    all_goals rw [operand_of_sign inner hs, operand_of_sign inner hs']
    · rw [Expr.form, Expr.form, hvalue.form]
    · exact hvalue.readers
  | none =>
    have hs' : r'.kind.sign? = none := by rw [← h.kind_eq, hs]
    simp only [operand, hs, hs']
    exact primary_alike hi hreads hl h

end Parts

/-- Reading at a number of levels does nothing but what the productions say. -/
theorem reads_expression (levels : Nat) :
    ExprReader.Reads fun strength r => expression levels strength r :=
  fun s r => expression_reads levels s r

/-- An operation is written alike and is no group. -/
theorem operation_alike {r r' p p' q q' : Reader} {a a' c c' : Expr} {b : Binding} (hr : r.Laid)
    (hr' : r'.Laid) (ha : Reads r (.expr a) p) (ha' : Reads r' (.expr a') p')
    (hleft : AlikeReadings (a, p) (a', p')) (hb : p.kind.binding? = some b)
    (hb' : p'.kind.binding? = some b) (hc : Reads p.advance (.expr c) q)
    (hc' : Reads p'.advance (.expr c') q') (hright : AlikeReadings (c, q) (c', q')) :
    AlikeReadings (.binary b.operator a c (a.span.merge c.span), q)
      (.binary b.operator a' c' (a'.span.merge c'.span), q') := by
  refine ⟨?_, hright.readers, ?_⟩
  · rw [Expr.form, Expr.form, hleft.form, hright.form]
  · intro _
    exact iff_of_false (ha.lastGroup_ne_of_operation hb hc hr)
      (ha'.lastGroup_ne_of_operation hb' hc' hr')

mutual

/-- Alike readers read alike. -/
theorem expression_alike : ∀ (levels strength : Nat) {r r' : Reader}, r.Alike r' →
    AlikeReadings (expression levels strength r) (expression levels strength r')
  | 0, _, _, _, h => tooDeep_alike h
  | levels + 1, strength, r, r', h => by
    have hi : ExprReader.Alike fun strength r => expression levels strength r :=
      fun s _ _ h => expression_alike levels s h
    have hreads := reads_expression levels
    have hl := leads_expression levels
    rw [expression_succ, expression_succ]
    exact operations_alike levels strength h.laid h.laid' (operand_reads hreads hl r)
      (operand_reads hreads hl r') (operand_alike hi hreads hl h)

theorem operations_alike : ∀ (levels strength : Nat) {r r' p p' : Reader} {a a' : Expr},
    r.Laid → r'.Laid → Reads r (.expr a) p → Reads r' (.expr a') p' →
      AlikeReadings (a, p) (a', p') →
        AlikeReadings (operations levels strength a p) (operations levels strength a' p')
  | levels, strength, r, r', p, p', a, a', hr, hr', ha, ha', h => by
    have hkind : p.kind = p'.kind := h.readers.kind_eq
    rcases hb : p.kind.binding? with _ | b
    · have hb' : p'.kind.binding? = none := by rw [← hkind, hb]
      rw [operations_of_none levels a hb, operations_of_none levels a' hb']
      exact h
    have hb' : p'.kind.binding? = some b := by rw [← hkind, hb]
    by_cases hlt : b.left < strength
    · rw [operations_of_lt levels a hb hlt, operations_of_lt levels a' hb' hlt]
      exact h
    have hnext := h.readers.advance
    match levels with
    | 0 =>
      rw [operations_zero a hb hlt, operations_zero a' hb' hlt]
      exact operation_alike hr hr' ha ha' h hb hb' .tooDeep .tooDeep (tooDeep_alike hnext)
    | levels + 1 =>
      have hright := expression_reads levels b.right p.advance
      have hright' := expression_reads levels b.right p'.advance
      have hreading := operation_alike hr hr' ha ha' h hb hb' hright hright'
        (expression_alike levels b.right hnext)
      rw [operations_succ levels a hb hlt, operations_succ levels a' hb' hlt]
      exact operations_alike levels strength hr hr' (.operation ha hb hright)
        (.operation ha' hb' hright') hreading

end

/-! ### Whole texts -/

theorem closeText_alike {r r' : Reader} (h : r.Alike r') : (closeText r).Alike (closeText r') := by
  unfold closeText
  dsimp only
  rw [← h.kind_eq, ← h.length_eq]
  split
  · exact h
  · exact (h.skip _).report rfl _ _

/-- Texts with the same tokens have the same tree and the same problems, places aside. -/
theorem parse_alike {source target : String}
    (h : (Token.lex source).map Token.form = (Token.lex target).map Token.form) :
    (parse source).root.form = (parse target).root.form ∧
      (parse source).diagnostics.map (·.problem.form) =
        (parse target).diagnostics.map (·.problem.form) := by
  have hstart : (Reader.start source).Alike (Reader.start target) :=
    ⟨Reader.start_laid source, Reader.start_laid target, h, rfl⟩
  have hreading := expression_alike nestingLimit 0 hstart
  unfold parse
  dsimp only
  rw [← hstart.kind_eq]
  split
  · exact ⟨rfl, rfl⟩
  · exact ⟨hreading.form, (closeText_alike hreading.readers).problems⟩

/-- No two nodes of the tree of a text have the same span. -/
theorem parse_distinct (source : String) : (parse source).root.Distinct := by
  unfold parse
  dsimp only
  split
  · exact List.pairwise_singleton _ _
  · exact (expression_reads nestingLimit 0 _).distinct (Reader.start_laid source)

/-- In the tree of a text no node has the span of a node below it. -/
theorem parse_apart (source : String) : ∀ n ∈ (parse source).root.nodes, n.Apart :=
  fun _ hn => ((parse_distinct source).of_mem_nodes hn).apart

end EventSheet
