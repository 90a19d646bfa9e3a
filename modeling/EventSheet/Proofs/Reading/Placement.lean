import EventSheet.Proofs.Reading.Forward
import EventSheet.Proofs.Syntax.Distinct

/-!
# Where nodes stand

Whatever is read stands between the token that it begins with and the token it stops at:
`Reads.within`. Hence no two nodes have the same span, and the group closed last has the span of a
node only where the node is that group.
-/

namespace EventSheet

/-! ### Spans between two positions -/

/-- A span that runs forward between two positions. -/
structure Span.Within (m n : Nat) (s : Span) : Prop where
  first : m ≤ s.start
  ordered : s.start ≤ s.stop
  last : s.stop ≤ n

theorem Span.Within.mono {m n m' n' : Nat} {s : Span} (h : s.Within m n) (hm : m' ≤ m)
    (hn : n ≤ n') : s.Within m' n' :=
  ⟨Nat.le_trans hm h.first, h.ordered, Nat.le_trans h.last hn⟩

theorem Span.Within.merge {m n : Nat} {s t : Span} (hs : s.Within m n) (ht : t.Within m n) :
    (s.merge t).Within m n :=
  ⟨Nat.le_min.2 ⟨hs.first, ht.first⟩,
    Nat.le_trans (Nat.min_le_left _ _) (Nat.le_trans hs.ordered (Nat.le_max_left _ _)),
    Nat.max_le.2 ⟨hs.last, ht.last⟩⟩

section

variable {r q : Reader} {m : Nat}

theorem Reader.Laid.span_within (h : r.Laid) : r.span.Within r.span.start r.advance.span.start :=
  ⟨Nat.le_refl _, h.ordered, h.stop_le⟩

theorem Reader.Laid.spanFrom_within (h : q.Laid) {s : Span} (hs : s.Within m q.span.start) :
    (q.spanFrom s).Within m q.span.start :=
  ⟨hs.first, Nat.le_trans hs.ordered (Nat.le_max_right _ _), Nat.max_le.2 ⟨h.lastEnd_le, hs.last⟩⟩

/-- The span from a token on to where reading stands. -/
theorem Reader.Follows.within (h : r.advance.Follows q) (hr : r.Laid) (hk : r.kind ≠ .eof) :
    Span.Within r.span.start q.span.start ⟨r.span.start, q.lastEnd⟩ := by
  refine ⟨Nat.le_refl _, ?_, h.laid.lastEnd_le⟩
  have hlast := h.lastEnd
  rw [advance_lastEnd hk] at hlast
  exact Nat.le_trans hr.ordered hlast

end

/-- A name of a callee is a token on the way to what follows the callee. -/
theorem Heads.exists_of_mem_names {r p : Reader} {callee : Callee} (h : Heads r callee p)
    (hr : r.Laid) {name : Name} (hname : name ∈ callee.names) :
    ∃ u, r.Follows u ∧ u.advance.Follows p ∧ u.kind = .ident ∧ name = .ofToken u.token := by
  have hobject := Reader.Follows.refl hr
  cases h with
  | free hk =>
    rw [List.mem_singleton.1 hname]
    exact ⟨r, hobject, .refl hr.advance, hk, rfl⟩
  | onObject hk _ hk' =>
    have hfunction := hobject.advance.advance
    simp only [Callee.names, List.mem_cons, List.not_mem_nil, or_false] at hname
    rcases hname with rfl | rfl
    · exact ⟨r, hobject, .advance (.advance (.refl hr.advance)), hk, rfl⟩
    · exact ⟨_, hfunction, .refl hfunction.laid.advance, hk', rfl⟩
  | onBehavior hk _ hk' _ hk'' =>
    have hbehavior := hobject.advance.advance
    have hfunction := hbehavior.advance.advance
    simp only [Callee.names, List.mem_cons, List.not_mem_nil, or_false] at hname
    rcases hname with rfl | rfl | rfl
    · exact ⟨r, hobject, .advance (.advance (.advance (.advance (.refl hr.advance)))), hk, rfl⟩
    · exact ⟨_, hbehavior, .advance (.advance (.refl hbehavior.laid.advance)), hk', rfl⟩
    · exact ⟨_, hfunction, .refl hfunction.laid.advance, hk'', rfl⟩

theorem Heads.names_within {r p : Reader} {callee : Callee} (h : Heads r callee p) (hr : r.Laid)
    {name : Name} (hname : name ∈ callee.names) : name.span.Within r.span.start p.span.start := by
  obtain ⟨u, hu, hp, -, rfl⟩ := h.exists_of_mem_names hr hname
  exact hu.laid.span_within.mono hu.start hp.start

theorem Heads.start_le {r p : Reader} {callee : Callee} (h : Heads r callee p) (hr : r.Laid) :
    callee.start ≤ callee.function.span.start := by
  rw [h.start_eq]
  exact (h.names_within hr callee.function_mem_names).first

/-! ### Readings -/

/-- The nodes of what was read. -/
def Piece.nodes : Piece → List Expr
  | expr e => e.nodes
  | arguments es => argumentNodes es
  | accessors as => accessorNodes as

theorem TokenKind.ne_eof_of_sign? {k : TokenKind} {s : Sign} (h : k.sign? = some s) :
    k ≠ .eof := by
  rintro rfl
  cases h

theorem TokenKind.ne_eof_of_binding? {k : TokenKind} {b : Binding} (h : k.binding? = some b) :
    k ≠ .eof := by
  rintro rfl
  cases h

/-- Where an expression begins. -/
def Piece.StartsAt (n : Nat) : Piece → Prop
  | expr e => e.span.start = n
  | _ => True

section

variable {r q : Reader} {x : Piece}

/-- An expression begins where the reader stands. -/
theorem Reads.startsAt (h : Reads r x q) (hr : r.Laid) : x.StartsAt r.span.start := by
  induction h with
  | number | string | name | unterminated | missing | unexpected | tooDeep | unclosed | noFunction
    | access => rfl
  | lastArgument | argument | noAccessor | noChild | child | index | openIndex => trivial
  | @group r q c _ hc _ _ =>
    have hinside := hr.follows_advance.trans (hc.follows hr.advance)
    rw [Piece.StartsAt, Expr.span_withSpan]
    exact Nat.min_eq_left hinside.start
  | signed _ _ ih =>
    have hv : _ = _ := ih hr.advance
    refine Nat.min_eq_left ?_
    rw [hv]
    exact hr.follows_advance.start
  | operation ha _ _ iha ihc =>
    have hleft := ha.follows hr
    have hstart : _ = _ := iha hr
    have hright : _ = _ := ihc hleft.laid.advance
    refine (Nat.min_eq_left ?_).trans hstart
    rw [hstart, hright]
    exact hleft.advance.start
  | emptyCall hh | call hh => exact hh.start_eq
  | bareCall hh => exact (Nat.min_eq_left (hh.start_le hr)).trans hh.start_eq

/-- What is read stands between the token it begins with and the token it stops at. -/
theorem Reads.within (h : Reads r x q) (hr : r.Laid) {n : Expr} (hn : n ∈ x.nodes) :
    n.span.Within r.span.start q.span.start := by
  induction h generalizing n with
  | number | string | name | unterminated =>
    rw [List.mem_singleton.1 hn]
    exact hr.span_within
  | missing =>
    rw [List.mem_singleton.1 hn]
    exact ⟨Nat.le_refl _, Nat.le_refl _, Nat.le_refl _⟩
  | unexpected =>
    have hskip := (Reader.Follows.refl hr.advance).skip
    rw [List.mem_singleton.1 hn]
    exact (hskip _).laid.spanFrom_within (hr.span_within.mono (Nat.le_refl _) (hskip _).start)
  | tooDeep =>
    have hskip := (Reader.Follows.refl hr).skip
    rw [List.mem_singleton.1 hn]
    exact (hskip _).laid.spanFrom_within ⟨Nat.le_refl _, Nat.le_refl _, (hskip _).start⟩
  | @group r q c hopen hc hclose ih =>
    have hinside := hc.follows hr.advance
    have hlast := hinside.laid.follows_advance.start
    rw [afterGroup_span]
    rcases List.mem_cons.1 hn with rfl | hn
    · rw [Expr.span_withSpan]
      refine (hr.span_within.mono (Nat.le_refl _) (Nat.le_trans hinside.start hlast)).merge ?_
      exact hinside.laid.span_within.mono (hr.follows_advance.trans hinside).start (Nat.le_refl _)
    · rw [Expr.descendants_withSpan] at hn
      exact (ih hr.advance (.tail _ hn)).mono hr.follows_advance.start hlast
  | unclosed hopen hc =>
    have hinside := hc.follows hr.advance
    rw [List.mem_singleton.1 hn]
    exact hinside.laid.spanFrom_within (hr.span_within.mono (Nat.le_refl _) hinside.start)
  | signed hs hv ih =>
    have hvalue := (ih hr.advance (.head _)).mono hr.follows_advance.start (Nat.le_refl _)
    rcases List.mem_cons.1 hn with rfl | hn
    · exact (hr.span_within.mono (Nat.le_refl _) (hv.follows hr.advance).start).merge hvalue
    · exact (ih hr.advance hn).mono hr.follows_advance.start (Nat.le_refl _)
  | @operation r p q a c b ha hb hc iha ihc =>
    have hleft := ha.follows hr
    have hright := hc.follows hleft.laid.advance
    have hlast := Nat.le_trans hleft.laid.follows_advance.start hright.start
    have hinleft : ∀ {n}, n ∈ a.nodes → n.span.Within r.span.start q.span.start :=
      fun hn => (iha hr hn).mono (Nat.le_refl _) hlast
    have hinright : ∀ {n}, n ∈ c.nodes → n.span.Within r.span.start q.span.start :=
      fun hn => (ihc hleft.laid.advance hn).mono hleft.advance.start (Nat.le_refl _)
    rcases List.mem_cons.1 hn with rfl | hn
    · exact (hinleft (.head _)).merge (hinright (.head _))
    have hn : n ∈ a.nodes ++ c.nodes := hn
    rcases List.mem_append.1 hn with hn | hn
    · exact hinleft hn
    · exact hinright hn
  | emptyCall hh =>
    rw [List.mem_singleton.1 hn, Expr.span, hh.start_eq]
    exact (hh.follows hr).advance.advance.within hr (by rw [hh.kind]; decide)
  | @call r p q callee es hh _ _ hes ih =>
    have hopen := hh.follows hr
    have hinside := hopen.advance.trans (hes.follows hopen.laid.advance)
    rcases List.mem_cons.1 hn with rfl | hn
    · rw [Expr.span, hh.start_eq]
      exact (hinside.afterInside _).within hr (by rw [hh.kind]; decide)
    · have hend := (Reader.Follows.refl hinside.laid).afterInside p.span
      have hbegin := hr.follows_advance.trans hopen.advance
      exact (ih hopen.laid.advance hn).mono hbegin.start hend.start
  | bareCall hh =>
    rw [List.mem_singleton.1 hn]
    exact (hh.names_within hr (.head _)).merge (hh.names_within hr (.tail _ (.tail _ (.head _))))
  | noFunction hk _ _ _ hp =>
    have hlast := (Reader.Follows.refl hr.advance).advance.advance.advance
    rw [List.mem_singleton.1 hn, hp]
    exact hlast.within hr (by rw [hk]; decide)
  | lastArgument _ _ ih =>
    obtain ⟨e, he, hn⟩ := mem_argumentNodes_iff.1 hn
    rw [List.mem_singleton.1 he] at hn
    exact ih hr hn
  | @argument _ _ _ e es he _ hes ihe ihes =>
    have hfirst := he.follows hr
    have hrest := hes.follows hfirst.laid.advance
    have hn : n ∈ e.nodes ++ argumentNodes es := hn
    rcases List.mem_append.1 hn with hn | hn
    · have hlast := Nat.le_trans hfirst.laid.follows_advance.start hrest.start
      exact (ihe hr hn).mono (Nat.le_refl _) hlast
    · exact (ihes hfirst.laid.advance hn).mono hfirst.advance.start (Nat.le_refl _)
  | access hk _ has ih =>
    have hsteps := has.follows hr.advance
    rcases List.mem_cons.1 hn with rfl | hn
    · exact hsteps.laid.spanFrom_within (hr.span_within.mono (Nat.le_refl _) hsteps.start)
    · exact (ih hr.advance hn).mono hr.follows_advance.start (Nat.le_refl _)
  | noAccessor | noChild => exact nomatch hn
  | child _ _ _ ih =>
    have hchild := hr.follows_advance.advance
    exact (ih hchild.laid hn).mono hchild.start (Nat.le_refl _)
  | @index _ _ _ e as _ he _ has ihe ihas =>
    have hindex := he.follows hr.advance
    have hrest := has.follows hindex.laid.advance
    have hn : n ∈ e.nodes ++ accessorNodes as := hn
    rcases List.mem_append.1 hn with hn | hn
    · have hlast := Nat.le_trans hindex.laid.follows_advance.start hrest.start
      exact (ihe hr.advance hn).mono hr.follows_advance.start hlast
    · exact (ihas hindex.laid.advance hn).mono (hr.follows_advance.trans hindex.advance).start
        (Nat.le_refl _)
  | openIndex _ _ _ ih =>
    obtain ⟨e, he, hn⟩ := mem_accessorNodes_iff.1 hn
    rw [List.mem_singleton.1 he] at hn
    exact (ih hr.advance hn).mono hr.follows_advance.start (Nat.le_refl _)

/-! ### Spans that differ -/

/-- A node that begins with a token of its own has another span than what is read behind it. -/
theorem Reads.span_ne (h : Reads r.advance x q) (hr : r.Laid) (hk : r.kind ≠ .eof) {n : Expr}
    (hn : n ∈ x.nodes) {s : Span} (hs : s.start ≤ r.span.start) : n.span ≠ s := by
  rintro rfl
  have hfirst := (h.within hr.advance hn).first
  have hlt := hr.span_lt hk
  have hnext := hr.stop_le
  omega

/-- What is read before a token has other spans than what is read behind it. -/
theorem Reads.spans_ne {p : Reader} {y : Piece} (h : Reads r x p) (hr : r.Laid) (hk : p.kind ≠ .eof)
    (h' : Reads p.advance y q) : ∀ m ∈ x.nodes, ∀ n ∈ y.nodes, m.span ≠ n.span := by
  intro m hm n hn hspan
  have hp := (h.follows hr).laid
  have hbefore := h.within hr hm
  have hbehind := h'.within hp.advance hn
  have hlt := hp.span_lt hk
  have hnext := hp.stop_le
  have hfirst := hbehind.first
  have hordered := hbefore.ordered
  have hlast := hbefore.last
  rw [← hspan] at hfirst
  omega

/-- No two nodes of what is read have the same span. -/
theorem Reads.distinct (h : Reads r x q) (hr : r.Laid) : DistinctSpans x.nodes := by
  induction h with
  | number | string | name | unterminated | missing | unexpected | tooDeep | unclosed | emptyCall
    | bareCall | noFunction => exact List.pairwise_singleton _ _
  | @group r q c hopen hc _ ih =>
    rw [Piece.nodes, Expr.nodes, Expr.descendants_withSpan]
    refine distinctSpans_cons.2 ⟨?_, (distinctSpans_cons.1 (ih hr.advance)).2⟩
    intro m hm
    rw [Expr.span_withSpan]
    exact (hc.span_ne hr (by rw [hopen]; decide) (.tail _ hm) (Nat.min_le_left _ _)).symm
  | @signed r _ _ _ hs hv ih =>
    refine distinctSpans_cons.2 ⟨?_, ih hr.advance⟩
    intro m hm
    exact (hv.span_ne hr (TokenKind.ne_eof_of_sign? hs) hm (Nat.min_le_left _ _)).symm
  | @operation r p q a c b ha hb hc iha ihc =>
    have hleft := ha.follows hr
    have hk := TokenKind.ne_eof_of_binding? hb
    have hparts : DistinctSpans (a.nodes ++ c.nodes) :=
      distinctSpans_append.2 ⟨iha hr, ihc hleft.laid.advance, ha.spans_ne hr hk hc⟩
    refine distinctSpans_cons.2 ⟨?_, hparts⟩
    intro m hm
    have hm : m ∈ a.nodes ++ c.nodes := hm
    apply Ne.symm
    rcases List.mem_append.1 hm with hm | hm
    · -- the left operand ends before the operator, and the right one after it
      have hlast := (ha.within hr hm).last
      have hright := hc.within hleft.laid.advance (.head _)
      have hbehind := Nat.le_trans hright.first hright.ordered
      have hlt := hleft.laid.span_lt hk
      have hnext := hleft.laid.stop_le
      have hstop : c.span.stop ≤ (a.span.merge c.span).stop := Nat.le_max_right _ _
      intro hspan
      rw [hspan, Expr.span] at hlast
      omega
    · refine hc.span_ne hleft.laid hk hm (Nat.le_trans (Nat.min_le_left _ _) ?_)
      have hstart : a.span.start = r.span.start := ha.startsAt hr
      rw [hstart]
      exact hleft.start
  | call hh hopen _ hes ih =>
    have hp := hr.follows_advance.trans (hh.follows hr)
    refine distinctSpans_cons.2 ⟨?_, ih hp.laid.advance⟩
    intro m hm
    refine (hes.span_ne hp.laid (by rw [hopen]; decide) hm ?_).symm
    rw [Expr.span, hh.start_eq]
    exact hp.start
  | @lastArgument _ _ e _ _ ih =>
    have hnodes : argumentNodes [e] = e.nodes := by
      rw [argumentNodes_eq_flatMap, List.flatMap_singleton]
    rw [Piece.nodes, hnodes]
    exact ih hr
  | @argument _ _ _ e es he hcomma hes ihe ihes =>
    exact distinctSpans_append.2 ⟨ihe hr, ihes (he.follows hr).laid.advance,
      he.spans_ne hr (by rw [hcomma]; decide) hes⟩
  | @access r q _ hk _ has ih =>
    refine distinctSpans_cons.2 ⟨?_, ih hr.advance⟩
    intro m hm
    have hstart : r.span.start ≤ r.span.start := Nat.le_refl _
    exact (has.span_ne (s := q.spanFrom r.span) hr (by rw [hk]; decide) hm hstart).symm
  | noAccessor | noChild => exact .nil
  | child _ _ _ ih => exact ih hr.advance.advance
  | @index _ _ _ e as _ he hclose has ihe ihas =>
    exact distinctSpans_append.2 ⟨ihe hr.advance, ihas (he.follows hr.advance).laid.advance,
      he.spans_ne hr.advance (by rw [hclose]; decide) has⟩
  | @openIndex _ _ e _ _ _ ih =>
    have hnodes (s : Span) : accessorNodes [.index e s] = e.nodes := by
      rw [accessorNodes_eq_flatMap]
      exact List.flatMap_singleton ..
    rw [Piece.nodes, hnodes]
    exact ih hr.advance

/-- An operation is not the group closed last. -/
theorem Reads.lastGroup_ne_of_operation {p : Reader} {a c : Expr} {b : Binding}
    (ha : Reads r (.expr a) p) (hb : p.kind.binding? = some b) (hc : Reads p.advance (.expr c) q)
    (hr : r.Laid) : q.lastGroup ≠ some (a.span.merge c.span) := by
  have hleft := ha.follows hr
  have hk := TokenKind.ne_eof_of_binding? hb
  refine (hc.follows hleft.laid.advance).lastGroup_ne hleft.laid hk ?_ ?_
  · have hstart : a.span.start = r.span.start := ha.startsAt hr
    refine Nat.le_trans (Nat.min_le_left _ _) ?_
    rw [hstart]
    exact hleft.start
  · have hright := hc.within hleft.laid.advance (.head _)
    have hbehind := Nat.le_trans hright.first hright.ordered
    exact Nat.le_trans (Nat.le_trans hleft.laid.stop_le hbehind) (Nat.le_max_right _ _)

/-- A call is not the group closed last. -/
theorem Heads.lastGroup_ne {p : Reader} {callee : Callee} (hh : Heads r callee p) (hr : r.Laid)
    (h : r.advance.Follows q) : q.lastGroup ≠ some ⟨callee.start, q.lastEnd⟩ := by
  have hne : r.kind ≠ .eof := by rw [hh.kind]; decide
  rw [hh.start_eq]
  refine h.lastGroup_ne hr hne (Nat.le_refl _) ?_
  rw [← Reader.advance_lastEnd hne]
  exact h.lastEnd

/-- What does not begin with a parenthesis is not the group closed last, when it could be read. -/
theorem Reads.lastGroup_ne {e : Expr} (h : Reads r (.expr e) q) (hr : r.Laid)
    (hk : r.kind ≠ .openParen) (he : e.isError = false) : q.lastGroup ≠ some e.span := by
  cases h with
  | number h | string h | name h =>
    have hne : r.kind ≠ .eof := by rw [h]; decide
    exact (Reader.Follows.refl hr.advance).lastGroup_ne hr hne (Nat.le_refl _) (Nat.le_refl _)
  | unterminated | missing | unexpected | tooDeep | unclosed | noFunction => exact nomatch he
  | group hopen => exact absurd hopen hk
  | signed hs hv =>
    have hne := TokenKind.ne_eof_of_sign? hs
    exact (hv.follows hr.advance).lastGroup_ne hr hne (Nat.min_le_left _ _) (Nat.le_max_left _ _)
  | operation ha hb hc => exact ha.lastGroup_ne_of_operation hb hc hr
  | emptyCall hh => exact hh.lastGroup_ne hr (hh.follows hr).advance.advance
  | call hh _ _ hes =>
    have hopen := (hh.follows hr).advance
    exact hh.lastGroup_ne hr ((hopen.trans (hes.follows hopen.laid)).afterInside _)
  | bareCall hh =>
    have hname := hh.kind
    have hp := (hh.follows hr).report
    cases hh with
    | onBehavior =>
      have hne : r.kind ≠ .eof := by rw [hname]; decide
      exact (hp _ _).lastGroup_ne hr hne (Nat.min_le_left _ _) (Nat.le_max_left _ _)
  | access hname _ has =>
    have hne : r.kind ≠ .eof := by rw [hname]; decide
    exact (has.follows hr.advance).lastGroup_ne hr hne (Nat.le_refl _) (Nat.le_max_right _ _)

end

end EventSheet
