import EventSheet.Proofs.Reading.Positions

/-!
# How nodes stand in one another

The names, operands, arguments and accessors of a node follow one another in the text and lie within
the node, and so do an index and its accessor: `parse_nested`. The exception are arguments and
indices whose closing bracket is missing. Such a node ends with the last token taken, while a value
that is missing in it stands at the next token, so that blanks may come between the two.
-/

namespace EventSheet

open Text (byteLength)

/-! ### Spans in a row -/

/-- Spans that run forward one after another between two positions. -/
inductive Span.Row : Nat → List Span → Nat → Prop
  | nil {m n : Nat} : m ≤ n → Row m [] n
  | cons {m n : Nat} {s : Span} {ss : List Span} : m ≤ s.start → s.start ≤ s.stop →
      Row s.stop ss n → Row m (s :: ss) n

namespace Span

section

variable {k m n : Nat} {s t : Span} {ss ts : List Span}

theorem Row.le (h : Row m ss n) : m ≤ n := by
  induction h with
  | nil h => exact h
  | cons hfirst hordered _ ih => exact Nat.le_trans hfirst (Nat.le_trans hordered ih)

theorem Row.of_le (h : Row m ss n) (hk : k ≤ m) : Row k ss n := by
  cases h with
  | nil h => exact .nil (Nat.le_trans hk h)
  | cons hfirst hordered h => exact .cons (Nat.le_trans hk hfirst) hordered h

theorem Row.to_le (h : Row m ss n) (hk : n ≤ k) : Row m ss k := by
  induction h with
  | nil h => exact .nil (Nat.le_trans h hk)
  | cons hfirst hordered _ ih => exact .cons hfirst hordered (ih hk)

theorem Row.append (h : Row k ss m) (h' : Row m ts n) : Row k (ss ++ ts) n := by
  induction h with
  | nil h => exact h'.of_le h
  | cons hfirst hordered _ ih => exact .cons hfirst hordered (ih h')

theorem Within.row (h : s.Within m n) : Row m [s] n := .cons h.first h.ordered (.nil h.last)

theorem Row.within (h : Row m ss n) (hs : s ∈ ss) : s.Within m n := by
  induction h with
  | nil => exact nomatch hs
  | cons hfirst hordered hrest ih =>
    rcases List.mem_cons.1 hs with rfl | hs
    · exact ⟨hfirst, hordered, hrest.le⟩
    · exact (ih hs).mono (Nat.le_trans hfirst hordered) (Nat.le_refl _)

theorem Within.trans (h : s.Within t.start t.stop) (h' : t.Within m n) : s.Within m n :=
  h.mono h'.first h'.last

/-- What follows one another is covered in that order. -/
theorem Row.merge (hs : s.start ≤ s.stop) (hst : s.stop ≤ t.start) (ht : t.start ≤ t.stop) :
    Row (s.merge t).start [s, t] (s.merge t).stop :=
  .cons (Nat.min_le_left _ _) hs (.cons hst ht (.nil (Nat.le_max_right _ _)))

end

end Span

/-! ### Nested nodes -/

/-- Where the names, operands, arguments and accessors of a node are written, in that order. -/
def Expr.parts : Expr → List Span
  | unary _ e _ => [e.span]
  | binary _ a b _ => [a.span, b.span]
  | call callee es _ => callee.names.map Name.span ++ es.map Expr.span
  | access name as _ => name.span :: as.map Accessor.span
  | _ => []

@[simp] theorem Expr.parts_withSpan (s : Span) (e : Expr) : (e.withSpan s).parts = e.parts := by
  cases e <;> rfl

/-- The parts of a node follow one another within it, and an index lies within its accessor. -/
structure Expr.Nested (e : Expr) : Prop where
  parts : Span.Row e.span.start e.parts e.span.stop
  indices : ∀ i s, .index i s ∈ e.accessors → i.span.Within s.start s.stop

theorem mem_indices_iff {i : Expr} {as : List Accessor} :
    i ∈ indices as ↔ ∃ s, Accessor.index i s ∈ as := by
  induction as with
  | nil => simp [indices]
  | cons a as ih =>
    cases a with
    | child name s => simp [indices, ih]
    | index e s => simp [indices, ih, exists_or]

/-- A nested node holds its operands, arguments and indices. -/
theorem Expr.Nested.child_within {e c : Expr} (h : e.Nested) (hc : c ∈ e.children) :
    c.span.Within e.span.start e.span.stop := by
  cases e with
  | number | string | identifier | empty | error => exact nomatch hc
  | unary sign a s =>
    rw [List.mem_singleton.1 hc]
    exact h.parts.within (.head _)
  | binary operator a b s => exact h.parts.within (List.mem_map_of_mem hc)
  | call callee es s =>
    exact h.parts.within (List.mem_append_right _ (List.mem_map_of_mem hc))
  | access name as s =>
    obtain ⟨t, ht⟩ := mem_indices_iff.1 hc
    have hmem : t ∈ as.map Accessor.span := List.mem_map.2 ⟨_, ht, rfl⟩
    exact (h.indices c t ht).trans (h.parts.within (.tail _ hmem))

/-- From the first position of a text on there are only blanks before the second one. -/
def Text.BlankUpTo (text : List Char) (m n : Nat) : Prop :=
  ∃ before gap after, text = before ++ (gap ++ after) ∧ byteLength before = m ∧ AllBlank gap ∧
    n ≤ m + byteLength gap

/-- A diagnostic with the code ends at the first position of a text, and from there on only blanks
stand before the second one. -/
structure LeftOpen (text : List Char) (ds : List Diagnostic) (code : Code) (m n : Nat) : Prop where
  told : ∃ d ∈ ds, d.code = code ∧ d.span.stop = m
  blank : Text.BlankUpTo text m n

/-- How far the parts of a node may reach: to the end of the node, or over the blanks behind a call
that is left open. -/
def Expr.Reaches (text : List Char) (ds : List Diagnostic) : Expr → Nat → Prop
  | call _ _ s, n => n ≤ s.stop ∨ LeftOpen text ds .unterminatedParameters s.stop n
  | e, n => n ≤ e.span.stop

/-- A node is nested, but for the blanks behind a call or an index that is left open: its parts
follow one another up to the given position. -/
structure Expr.NestedUpTo (text : List Char) (ds : List Diagnostic) (n : Nat) (e : Expr) :
    Prop where
  parts : Span.Row e.span.start e.parts n
  reaches : e.Reaches text ds n
  indices : ∀ i s, .index i s ∈ e.accessors →
    ∃ n, i.span.Within s.start n ∧ (n ≤ s.stop ∨ LeftOpen text ds .unterminatedIndex s.stop n)

section

variable {text : List Char} {ds ds' : List Diagnostic} {code : Code} {m n : Nat} {e : Expr}

theorem Text.BlankUpTo.of_le (h : Text.BlankUpTo text m n) {k : Nat} (hk : k ≤ n) :
    Text.BlankUpTo text m k := by
  obtain ⟨before, gap, after, htext, hlen, hgap, hn⟩ := h
  exact ⟨before, gap, after, htext, hlen, hgap, Nat.le_trans hk hn⟩

theorem LeftOpen.mono (h : LeftOpen text ds code m n) (hds : ds ⊆ ds') :
    LeftOpen text ds' code m n := by
  obtain ⟨⟨d, hd, htold⟩, hblank⟩ := h
  exact ⟨⟨d, hds hd, htold⟩, hblank⟩

theorem Expr.reaches_of_le (h : n ≤ e.span.stop) : e.Reaches text ds n := by
  cases e with
  | call => exact .inl h
  | _ => exact h

theorem Expr.NestedUpTo.mono (h : e.NestedUpTo text ds n) (hds : ds ⊆ ds') :
    e.NestedUpTo text ds' n := by
  refine ⟨h.parts, ?_, ?_⟩
  · have hreaches := h.reaches
    cases e with
    | call => exact hreaches.imp_right fun hopen => hopen.mono hds
    | _ => exact hreaches
  · intro i s hi
    obtain ⟨n, hwithin, hn⟩ := h.indices i s hi
    exact ⟨n, hwithin, hn.imp_right fun hopen => hopen.mono hds⟩

/-- Where nothing is left open, nodes are nested. -/
theorem Expr.NestedUpTo.nested (h : e.NestedUpTo text ds n)
    (hds : ∀ d ∈ ds, d.code ≠ .unterminatedParameters ∧ d.code ≠ .unterminatedIndex) :
    e.Nested := by
  constructor
  · have hreaches := h.reaches
    refine h.parts.to_le ?_
    cases e with
    | call =>
      rcases hreaches with hn | hopen
      · exact hn
      · obtain ⟨d, hd, hcode, -⟩ := hopen.told
        exact absurd hcode (hds d hd).1
    | _ => exact hreaches
  · intro i s hi
    obtain ⟨n, hwithin, hn | hopen⟩ := h.indices i s hi
    · exact hwithin.mono (Nat.le_refl _) hn
    · obtain ⟨d, hd, hcode, -⟩ := hopen.told
      exact absurd hcode (hds d hd).2

end

/-! ### Pieces in a row -/

section

variable {text : List Char} {r p q : Reader} {x : Piece}

/-- Behind the last token taken there are only blanks before the next one. -/
theorem Reader.StandsIn.blankUpTo (h : r.StandsIn text) :
    Text.BlankUpTo text r.lastEnd r.span.start := by
  obtain ⟨before, after, hsource, hlen, hlaid⟩ := h.laid.tokens
  rw [h.source] at hsource
  cases htok : r.tokens with
  | nil =>
    rw [htok] at hlaid
    cases hlaid with
    | blanks hgap =>
      refine ⟨before, after, [], by simpa using hsource, hlen, hgap, ?_⟩
      simp [Reader.span, Reader.token, htok, Token.atEnd, Span.point, h.source, hsource, hlen]
  | cons t ts =>
    rw [htok] at hlaid
    cases hlaid with
    | @token _ gap word rest _ _ hgap _ _ hspan _ =>
      refine ⟨before, gap, word ++ rest, hsource, hlen, hgap, ?_⟩
      exact Nat.le_of_eq (by rw [Reader.span_eq htok, hspan])

/-- A token comes before what is in a row from a later token on. -/
theorem Reader.Laid.row_cons (hr : r.Laid) (h : r.advance.Follows p) {ss : List Span} {n : Nat}
    (hss : Span.Row p.span.start ss n) : Span.Row r.span.start (r.span :: ss) n :=
  .cons (Nat.le_refl _) hr.ordered (hss.of_le (Nat.le_trans hr.stop_le h.start))

theorem Reader.Laid.row_last (hr : r.Laid) (hk : r.kind ≠ .eof) :
    Span.Row r.span.start [r.span] r.advance.lastEnd :=
  .cons (Nat.le_refl _) hr.ordered (.nil (Nat.le_of_eq (Reader.advance_lastEnd hk).symm))

/-- The names of a callee follow one another up to the last token taken. -/
theorem Heads.row {callee : Callee} (h : Heads r callee p) (hr : r.Laid) :
    Span.Row r.span.start (callee.names.map Name.span) p.lastEnd := by
  have hnext := Reader.Follows.refl hr.advance
  cases h with
  | free hk => exact hr.row_last (by rw [hk]; decide)
  | onObject _ _ hk =>
    exact hr.row_cons hnext.advance (hnext.advance.laid.row_last (by rw [hk]; decide))
  | onBehavior _ _ _ _ hk =>
    have hbehavior := Reader.Follows.refl hnext.advance.laid.advance
    refine hr.row_cons hnext.advance (hnext.advance.laid.row_cons hbehavior.advance ?_)
    exact hbehavior.advance.laid.row_last (by rw [hk]; decide)

/-- How the arguments or accessors of a piece stand in a row. -/
def Piece.Row (text : List Char) (r q : Reader) : Piece → Prop
  | expr _ => True
  | arguments es => Span.Row r.span.start (es.map Expr.span) q.span.start
  | accessors as =>
    Span.Row r.lastEnd (as.map Accessor.span) q.lastEnd ∧
      ∀ i s, .index i s ∈ as → ∃ n, i.span.Within s.start n ∧
        (n ≤ s.stop ∨ LeftOpen text q.diagnostics.toList .unterminatedIndex s.stop n)

/-- The span from a token to a later one. -/
theorem Reader.Follows.merge_within (h : r.advance.Follows q) (hr : r.Laid) (hk : q.kind ≠ .eof) :
    (r.span.merge q.span).Within r.span.start q.advance.lastEnd := by
  have hlast := hr.span_within.mono (Nat.le_refl _) (Nat.le_trans h.start h.laid.ordered)
  rw [Reader.advance_lastEnd hk]
  exact hlast.merge ⟨(hr.follows_advance.trans h).start, h.laid.ordered, Nat.le_refl _⟩

/-- The span from a token to where reading stands ends with the last token taken. -/
theorem Reader.Follows.spanFrom_stop (h : r.advance.Follows q) (hk : r.kind ≠ .eof) :
    (q.spanFrom r.span).stop = q.lastEnd := by
  have hlast := h.lastEnd
  rw [Reader.advance_lastEnd hk] at hlast
  exact Nat.max_eq_left hlast

/-- What stands before the reader stands before the blanks behind a bracket that is reported there
as left open. -/
theorem Reader.StandsIn.leftOpen (h : r.StandsIn text) {problem : Problem} {code : Code} {s : Span}
    (hcode : problem.code = code) (hs : s.stop = r.lastEnd) :
    LeftOpen text (r.report problem s).diagnostics.toList code s.stop r.span.start := by
  refine ⟨⟨⟨problem, s⟩, ?_, hcode, rfl⟩, hs ▸ h.blankUpTo⟩
  simp [Reader.report]

theorem Reads.row (h : Reads r x q) (hr : r.StandsIn text) : x.Row text r q := by
  induction h with
  | lastArgument he => exact (he.within hr.laid (.head _)).row
  | argument he _ _ _ ih =>
    have hfirst := he.follows hr.laid
    have hwithin := he.within hr.laid (.head _)
    have hrest := ih (hfirst.standsIn hr).advance
    refine .cons hwithin.first hwithin.ordered (Span.Row.of_le hrest ?_)
    exact Nat.le_trans hwithin.last hfirst.laid.follows_advance.start
  | noAccessor => exact ⟨.nil (Nat.le_refl _), nofun⟩
  | noChild => exact ⟨.nil hr.laid.follows_advance.lastEnd, nofun⟩
  | child _ hname _ ih =>
    obtain ⟨hrow, hindices⟩ := ih hr.advance.advance
    have hchild := (Reader.Follows.refl hr.laid.advance).merge_within hr.laid
      (by rw [hname]; decide)
    refine ⟨.cons (Nat.le_trans hr.laid.lastEnd_le hchild.first) hchild.ordered
      (hrow.of_le hchild.last), ?_⟩
    intro i s hi
    rcases List.mem_cons.1 hi with hi | hi
    · exact nomatch hi
    · exact hindices i s hi
  | @index r p q e as hopen he hclose _ _ ih =>
    have hinside := he.follows hr.laid.advance
    obtain ⟨hrow, hindices⟩ := ih (hinside.standsIn hr.advance).advance
    have hspan := hinside.merge_within hr.laid (by rw [hclose]; decide)
    refine ⟨.cons (Nat.le_trans hr.laid.lastEnd_le hspan.first) hspan.ordered
      (hrow.of_le hspan.last), ?_⟩
    intro i s hi
    rcases List.mem_cons.1 hi with hi | hi
    · obtain ⟨rfl, rfl⟩ := Accessor.index.inj hi
      refine ⟨_, (he.within hr.laid.advance (.head _)).mono ?_ ?_, .inl (Nat.le_refl _)⟩
      · exact Nat.le_trans (Nat.min_le_left _ _) hr.laid.follows_advance.start
      · exact Nat.le_trans hinside.laid.ordered (Nat.le_max_right _ _)
    · exact hindices i s hi
  | @openIndex r q e hopen he =>
    have hinside := he.follows hr.laid.advance
    have hstands := hinside.standsIn hr.advance
    have hstop := hinside.spanFrom_stop (r := r) (by rw [hopen]; decide)
    constructor
    · refine .cons hr.laid.lastEnd_le ?_ (.nil (Nat.le_of_eq hstop))
      exact Nat.le_trans hr.laid.ordered (Nat.le_max_right _ _)
    · intro i s hi
      obtain ⟨rfl, rfl⟩ := Accessor.index.inj (List.mem_singleton.1 hi)
      refine ⟨_, (he.within hr.laid.advance (.head _)).mono ?_ (Nat.le_refl _),
        .inr (hstands.leftOpen rfl hstop)⟩
      exact hr.laid.follows_advance.start
  | _ => trivial

/-! ### Nodes in one another -/

/-- The parts of a node follow one another up to no later than the given position. -/
def Expr.NestedBefore (text : List Char) (ds : List Diagnostic) (limit : Nat) (e : Expr) : Prop :=
  ∃ n ≤ limit, e.NestedUpTo text ds n

theorem Expr.NestedBefore.mono {ds ds' : List Diagnostic} {m n : Nat} {e : Expr}
    (h : e.NestedBefore text ds m) (hds : ds ⊆ ds') (hn : m ≤ n) : e.NestedBefore text ds' n := by
  obtain ⟨k, hk, hnested⟩ := h
  exact ⟨k, Nat.le_trans hk hn, hnested.mono hds⟩

/-- What was read is nested when its parts follow one another within it. -/
theorem Reads.nestedBefore_of_row {e : Expr} (h : Reads r (.expr e) q) (hr : r.Laid)
    (hparts : Span.Row e.span.start e.parts e.span.stop) (ha : e.accessors = []) :
    e.NestedBefore text q.diagnostics.toList q.span.start := by
  refine ⟨_, (h.within hr (.head _)).last, hparts, Expr.reaches_of_le (Nat.le_refl _), ?_⟩
  rw [ha]
  exact nofun

theorem Reads.nestedBefore_of_leaf {e : Expr} (h : Reads r (.expr e) q) (hr : r.Laid)
    (hparts : e.parts = []) (ha : e.accessors = []) :
    e.NestedBefore text q.diagnostics.toList q.span.start :=
  h.nestedBefore_of_row hr (hparts ▸ .nil (h.within hr (.head _)).ordered) ha

/-- Every node that is read is nested, but for the blanks behind what is left open. -/
theorem Reads.nested (h : Reads r x q) (hr : r.StandsIn text) {n : Expr} (hn : n ∈ x.nodes) :
    n.NestedBefore text q.diagnostics.toList q.span.start := by
  induction h generalizing n with
  | number hk =>
    rw [List.mem_singleton.1 hn]
    exact (Reads.number hk).nestedBefore_of_leaf hr.laid rfl rfl
  | string hk =>
    rw [List.mem_singleton.1 hn]
    exact (Reads.string hk).nestedBefore_of_leaf hr.laid rfl rfl
  | name hk =>
    rw [List.mem_singleton.1 hn]
    exact (Reads.name hk).nestedBefore_of_leaf hr.laid rfl rfl
  | unterminated hk =>
    rw [List.mem_singleton.1 hn]
    exact (Reads.unterminated hk).nestedBefore_of_leaf hr.laid rfl rfl
  | missing hk hnote hcode =>
    rw [List.mem_singleton.1 hn]
    exact (Reads.missing hk hnote hcode).nestedBefore_of_leaf hr.laid rfl rfl
  | unexpected hk =>
    rw [List.mem_singleton.1 hn]
    exact (Reads.unexpected hk).nestedBefore_of_leaf hr.laid rfl rfl
  | tooDeep =>
    rw [List.mem_singleton.1 hn]
    exact Reads.tooDeep.nestedBefore_of_leaf hr.laid rfl rfl
  | unclosed hopen hc hclose =>
    rw [List.mem_singleton.1 hn]
    exact (Reads.unclosed hopen hc hclose).nestedBefore_of_leaf hr.laid rfl rfl
  | noFunction hk hdot hbehavior hcolons hp hfunction =>
    rw [List.mem_singleton.1 hn]
    have h := Reads.noFunction hk hdot hbehavior hcolons hp hfunction
    exact h.nestedBefore_of_leaf hr.laid rfl rfl
  | @group r q c hopen hc hclose ih =>
    have hinside := hc.follows hr.laid.advance
    have hds := ((Reader.advance_leads q).trans
      (afterGroup_leads c (r.span.merge q.span) _)).diagnostics.subset
    have hlast := hinside.laid.follows_advance.start
    rw [afterGroup_span]
    rcases List.mem_cons.1 hn with rfl | hn
    · -- what is left open in the group ends before its closing parenthesis all the same
      obtain ⟨n, hn, hnested⟩ := (ih hr.advance (.head _)).mono hds (Nat.le_refl _)
      have hcontent := (hc.within hr.laid.advance (.head _)).first
      refine ⟨n, Nat.le_trans hn hlast, ?_, Expr.reaches_of_le ?_, ?_⟩
      · rw [Expr.span_withSpan, Expr.parts_withSpan]
        refine hnested.parts.of_le (Nat.le_trans (Nat.min_le_left _ _) ?_)
        exact Nat.le_trans hr.laid.follows_advance.start hcontent
      · rw [Expr.span_withSpan]
        exact Nat.le_trans hn (Nat.le_trans hinside.laid.ordered (Nat.le_max_right _ _))
      · rw [Expr.accessors_withSpan]
        exact hnested.indices
    · rw [Expr.descendants_withSpan] at hn
      exact (ih hr.advance (.tail _ hn)).mono hds hlast
  | @signed r q s v hs hv ih =>
    rcases List.mem_cons.1 hn with rfl | hn
    · have hvalue := hv.within hr.laid.advance (.head _)
      refine (Reads.signed hs hv).nestedBefore_of_row hr.laid ?_ rfl
      exact .cons (Nat.min_le_right _ _) hvalue.ordered (.nil (Nat.le_max_right _ _))
    · exact ih hr.advance hn
  | @operation r p q a c b ha hb hc iha ihc =>
    have hp := (ha.follows hr.laid).standsIn hr
    have hright := hc.follows hp.laid.advance
    have hds := ((Reader.advance_leads p).trans hc.leads).diagnostics.subset
    rcases List.mem_cons.1 hn with rfl | hn
    · have hleft := ha.within hr.laid (.head _)
      have hright := hc.within hp.laid.advance (.head _)
      have hbetween := Nat.le_trans hp.laid.follows_advance.start hright.first
      refine (Reads.operation ha hb hc).nestedBefore_of_row hr.laid ?_ rfl
      exact .merge hleft.ordered (Nat.le_trans hleft.last hbetween) hright.ordered
    have hn : n ∈ a.nodes ++ c.nodes := hn
    rcases List.mem_append.1 hn with hn | hn
    · exact (iha hr hn).mono hds (Nat.le_trans hp.laid.follows_advance.start hright.start)
    · exact ihc hp.advance hn
  | @emptyCall r p callee hh hopen hclose =>
    have hclosing := (hh.standsIn hr).laid.follows_advance.advance
    rw [List.mem_singleton.1 hn]
    refine (Reads.emptyCall hh hopen hclose).nestedBefore_of_row hr.laid ?_ rfl
    rw [Expr.parts, Expr.span, hh.start_eq, List.map_nil, List.append_nil]
    exact (hh.row hr.laid).to_le hclosing.lastEnd
  | @call r p q callee es hh hopen hne hes ih =>
    have hp := hh.standsIn hr
    have hinside := hes.follows hp.laid.advance
    have hq := hinside.standsIn hp.advance
    have hlast := (Reader.Follows.refl hq.laid).afterInside p.span
    rcases List.mem_cons.1 hn with rfl | hn
    · have hargs := hes.row hp.advance
      have hfirst := Nat.le_trans hp.laid.lastEnd_le hp.laid.follows_advance.start
      have hrow := (hh.row hr.laid).append (Span.Row.of_le hargs hfirst)
      refine ⟨q.span.start, hlast.start, ?_, ?_, fun _ _ hi => absurd hi List.not_mem_nil⟩
      · rw [Expr.span, hh.start_eq]
        exact hrow
      by_cases hclose : q.kind = .closeParen
      · have hafter : afterInside p.span q = q.advance := if_pos hclose
        refine .inl (Nat.le_trans hq.laid.ordered (Nat.le_of_eq ?_))
        rw [hafter, Reader.advance_lastEnd (by rw [hclose]; decide)]
      · have hafter : afterInside p.span q =
            q.report (.unterminatedParameters p.span) (q.spanFrom p.span) := if_neg hclose
        have hstop := hinside.spanFrom_stop (by rw [hopen]; decide)
        rw [hafter]
        exact .inr (hstop ▸ hq.leftOpen rfl hstop)
    · exact (ih hp.advance hn).mono (afterInside_leads p.span q).diagnostics.subset hlast.start
  | @bareCall r p object behavior function hh hopen =>
    rw [List.mem_singleton.1 hn]
    refine (Reads.bareCall hh hopen).nestedBefore_of_row hr.laid ?_ rfl
    have hrow : Span.Row r.span.start [object.span, behavior.span, function.span] p.lastEnd :=
      hh.row hr.laid
    obtain _ | ⟨-, hobject, _ | ⟨hfirst, hbehavior, _ | ⟨hsecond, hfunction, -⟩⟩⟩ := hrow
    refine .cons (Nat.min_le_left _ _) hobject (.cons hfirst hbehavior ?_)
    exact .cons hsecond hfunction (.nil (Nat.le_max_right _ _))
  | lastArgument _ _ ih =>
    obtain ⟨e, he, hn⟩ := mem_argumentNodes_iff.1 hn
    rw [List.mem_singleton.1 he] at hn
    exact ih hr hn
  | @argument _ p _ e es he _ hes ihe ihes =>
    have hfirst := (he.follows hr.laid).standsIn hr
    have hrest := hes.follows hfirst.laid.advance
    have hds := ((Reader.advance_leads p).trans hes.leads).diagnostics.subset
    have hn : n ∈ e.nodes ++ argumentNodes es := hn
    rcases List.mem_append.1 hn with hn | hn
    · exact (ihe hr hn).mono hds (Nat.le_trans hfirst.laid.follows_advance.start hrest.start)
    · exact ihes hfirst.advance hn
  | @access r q as hk _ has ih =>
    rcases List.mem_cons.1 hn with rfl | hn
    · obtain ⟨hrow, hindices⟩ := has.row hr.advance
      have hne : r.kind ≠ .eof := by rw [hk]; decide
      have hsteps := has.follows hr.laid.advance
      refine ⟨q.lastEnd, hsteps.laid.lastEnd_le, .cons (Nat.le_refl _) hr.laid.ordered ?_,
        Nat.le_of_eq (hsteps.spanFrom_stop hne).symm, hindices⟩
      exact hrow.of_le (Nat.le_of_eq (Reader.advance_lastEnd hne).symm)
    · exact ih hr.advance hn
  | noAccessor | noChild => exact absurd hn List.not_mem_nil
  | child _ _ _ ih => exact ih hr.advance.advance hn
  | @index r p _ e as _ he _ has ihe ihas =>
    have hindex := (he.follows hr.laid.advance).standsIn hr.advance
    have hrest := has.follows hindex.laid.advance
    have hds := ((Reader.advance_leads p).trans has.leads).diagnostics.subset
    have hn : n ∈ e.nodes ++ accessorNodes as := hn
    rcases List.mem_append.1 hn with hn | hn
    · exact (ihe hr.advance hn).mono hds
        (Nat.le_trans hindex.laid.follows_advance.start hrest.start)
    · exact ihas hindex.advance hn
  | openIndex _ _ _ ih =>
    obtain ⟨e, he, hn⟩ := mem_accessorNodes_iff.1 hn
    rw [List.mem_singleton.1 he] at hn
    exact (ih hr.advance hn).mono (Reader.report_leads _ _ _).diagnostics.subset (Nat.le_refl _)

end

/-! ### Whole texts -/

/-- The names, operands, arguments and accessors of every node follow one another from where the
node begins on. They lie within the node, and an index lies within its accessor, unless a call or an
index is reported as left open at its end: from there on what is written in it reaches over blanks
at most. So in a text in which no call and no index is left open all nodes are nested. -/
theorem parse_nested (source : String) :
    (∀ e ∈ (parse source).root.nodes,
      ∃ n, e.NestedUpTo source.toList (parse source).diagnostics n) ∧
    ((∀ d ∈ (parse source).diagnostics,
      d.code ≠ .unterminatedParameters ∧ d.code ≠ .unterminatedIndex) →
        ∀ e ∈ (parse source).root.nodes,
          e.Nested ∧ ∀ c ∈ e.children, c.span.Within e.span.start e.span.stop) := by
  have hnested : ∀ e ∈ (parse source).root.nodes,
      ∃ n, e.NestedUpTo source.toList (parse source).diagnostics n := by
    have hstart := Reader.start_standsIn source
    unfold parse
    dsimp only
    split
    · intro e he
      rw [List.mem_singleton.1 he]
      exact ⟨_, .nil hstart.laid.ordered, Nat.le_refl _, nofun⟩
    · intro e he
      have hreads := expression_reads nestingLimit 0 (Reader.start source)
      obtain ⟨n, -, hn⟩ := hreads.nested hstart he
      exact ⟨n, hn.mono (closeText_leads _).diagnostics.subset⟩
  refine ⟨hnested, ?_⟩
  intro hds e he
  obtain ⟨n, hn⟩ := hnested e he
  exact ⟨hn.nested hds, fun c hc => (hn.nested hds).child_within hc⟩

theorem parse_nested_call :
    (∀ d ∈ (parse "F(1, a[2].b)").diagnostics,
      d.code ≠ .unterminatedParameters ∧ d.code ≠ .unterminatedIndex) ∧
    ∀ e ∈ (parse "F(1, a[2].b)").root.nodes,
      e.Nested ∧ ∀ c ∈ e.children, c.span.Within e.span.start e.span.stop := by
  have hdiagnostics : (parse "F(1, a[2].b)").diagnostics = [] := by decide +kernel
  have hclosed : ∀ d ∈ (parse "F(1, a[2].b)").diagnostics,
      d.code ≠ .unterminatedParameters ∧ d.code ≠ .unterminatedIndex := by
    rw [hdiagnostics]
    exact nofun
  exact ⟨hclosed, (parse_nested "F(1, a[2].b)").2 hclosed⟩

/-- Not every node holds its arguments: the one that is missing in a call without its closing
parenthesis stands behind the call, where blanks are at the end of the text. -/
theorem open_call_not_nested : ¬ ∀ source, ∀ e ∈ (parse source).root.nodes, e.Nested := by
  intro h
  have hroot : (parse "F( ").root =
      .call (.free ⟨"F", ⟨0, 1⟩⟩) [.error "missing operand" "" ⟨3, 3⟩] ⟨0, 2⟩ := by
    with_unfolding_all rfl
  have hnested := h "F( " _ (.head _)
  rw [hroot] at hnested
  have hargument : Span.Within 0 2 ⟨3, 3⟩ := hnested.parts.within (.tail _ (.head _))
  exact absurd hargument.last (by decide)

end EventSheet
