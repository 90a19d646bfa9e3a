import EventSheet.Proofs.Reading.Placement

/-!
# Positions of what is read

Every span that reading makes begins and ends where a token does or where the text ends: spans are
those of tokens, points before them, and what covers some of these. So every node, accessor and name
and every diagnostic has a place in the text that cuts no character, and a name is what the text has
at its span.
-/

namespace EventSheet

open Text (byteLength IsBoundary)

/-! ### What has positions -/

/-- The place of a name fits the text, and the name is what stands there. -/
structure Name.Positioned (text : List Char) (name : Name) : Prop where
  span : name.span.Fits text
  spelled : name.span.cut? text = some name.text.toList

/-- The places of a node, of its accessors and of its names fit the text. -/
structure Expr.Positioned (text : List Char) (e : Expr) : Prop where
  span : e.span.Fits text
  accessors : ∀ a ∈ e.accessors, a.span.Fits text
  names : ∀ name ∈ e.names, name.Positioned text

/-- The place of a diagnostic and the place that its note points at fit the text. -/
structure Diagnostic.Positioned (text : List Char) (d : Diagnostic) : Prop where
  span : d.span.Fits text
  note : ∀ said s, d.problem.note? = some (said, s) → s.Fits text

theorem Diagnostic.Positioned.of_no_note {text : List Char} {problem : Problem} {s : Span}
    (hs : s.Fits text) (h : problem.note? = none) : Positioned text ⟨problem, s⟩ := by
  refine ⟨hs, ?_⟩
  intro said t ht
  rw [h] at ht
  exact nomatch ht

/-! ### Readers in a text -/

/-- The reader is laid out in the text. -/
structure Reader.StandsIn (text : List Char) (r : Reader) : Prop where
  laid : r.Laid
  source : r.source = text

section

variable {text : List Char} {r q : Reader} {s : Span}

theorem Reader.Follows.standsIn (h : r.Follows q) (hr : r.StandsIn text) : q.StandsIn text :=
  ⟨h.laid, h.source.trans hr.source⟩

theorem Reader.StandsIn.advance (h : r.StandsIn text) : r.advance.StandsIn text :=
  h.laid.follows_advance.standsIn h

theorem Reader.StandsIn.skip (h : r.StandsIn text) (n : Nat) : (Reader.skip n r).StandsIn text :=
  ((Reader.Follows.refl h.laid).skip n).standsIn h

theorem Reader.StandsIn.lastEnd (h : r.StandsIn text) : IsBoundary text r.lastEnd := by
  obtain ⟨before, after, hsource, hlen, -⟩ := h.laid.tokens
  exact ⟨before, after, h.source.symm.trans hsource, hlen⟩

/-- The token at a reader stands between two boundaries. -/
theorem Reader.StandsIn.fits (h : r.StandsIn text) : r.span.Fits text := by
  cases htok : r.tokens with
  | nil =>
    have hend : IsBoundary text (byteLength text) := ⟨text, [], (List.append_nil text).symm, rfl⟩
    have hspan : r.span = Span.point (byteLength text) := by
      rw [← h.source]
      simp [Reader.span, Reader.token, htok, Token.atEnd]
    rw [hspan]
    exact .point hend
  | cons t ts =>
    obtain ⟨before, gap, word, rest, hsource, hlen, -, -, hspan, -⟩ := h.laid.exists_parts htok
    rw [h.source] at hsource
    rw [Reader.span_eq htok, hspan, ← hlen]
    refine .of_boundaries (Nat.le_add_right _ _) ?_ ?_
    · refine ⟨before ++ gap, word ++ rest, ?_, Text.byteLength_append _ _⟩
      rw [hsource, List.append_assoc]
    · refine ⟨before ++ gap ++ word, rest, ?_, ?_⟩
      · rw [hsource, List.append_assoc, List.append_assoc]
      · rw [Text.byteLength_append, Text.byteLength_append]

theorem Reader.StandsIn.point (h : r.StandsIn text) : (Span.point r.span.start).Fits text :=
  .point h.fits.start

/-- A name is written as it is spelled. -/
theorem Reader.StandsIn.name (h : r.StandsIn text) (hk : r.kind ≠ .eof) :
    (Name.ofToken r.token).Positioned text := by
  obtain ⟨t, ts, htok⟩ := Reader.exists_tokens hk
  obtain ⟨before, gap, word, rest, hsource, hlen, -, hspelled, hspan, -⟩ :=
    h.laid.exists_parts htok
  refine ⟨h.fits, ?_⟩
  rw [Reader.token_eq htok, Name.ofToken, hspan, hspelled, String.toList_ofList, ← h.source,
    hsource, ← hlen, ← Text.byteLength_append, ← List.append_assoc]
  exact Span.cut?_append (before ++ gap) word rest

theorem Reader.StandsIn.spanFrom (h : r.StandsIn text) (hs : s.Fits text) :
    (r.spanFrom s).Fits text :=
  .of_boundaries (Nat.le_trans hs.ordered (Nat.le_max_right _ _)) hs.start (h.lastEnd.max hs.stop)

/-- The span from a token on to where reading stands. -/
theorem Reader.Follows.fits (h : r.advance.Follows q) (hr : r.StandsIn text) (hk : r.kind ≠ .eof) :
    Span.Fits text ⟨r.span.start, q.lastEnd⟩ := by
  refine .of_boundaries (h.within hr.laid hk).ordered hr.fits.start ?_
  exact (h.standsIn hr.advance).lastEnd

end

/-! ### Nodes -/

/-- The places of all that a piece holds fit the text. -/
def Piece.Positioned (text : List Char) : Piece → Prop
  | expr e => ∀ n ∈ e.nodes, n.Positioned text
  | arguments es => ∀ n ∈ argumentNodes es, n.Positioned text
  | accessors as => (∀ n ∈ accessorNodes as, n.Positioned text) ∧ ∀ a ∈ as, a.span.Fits text

section

variable {text : List Char} {r p q : Reader} {x : Piece}

theorem Piece.positioned_leaf {e : Expr} (hspan : e.span.Fits text) (hnodes : e.descendants = [])
    (haccessors : e.accessors = []) (hnames : ∀ name ∈ e.names, name.Positioned text) :
    (expr e).Positioned text := by
  intro n hn
  rw [Expr.nodes, hnodes] at hn
  rw [List.mem_singleton.1 hn]
  refine ⟨hspan, ?_, hnames⟩
  rw [haccessors]
  intro a ha
  cases ha

/-- What could not be read has a place as well. -/
theorem Piece.positioned_fail {problem : Problem} {reason : String} {s : Span}
    (hs : s.Fits text) : (expr (r.fail problem reason s).1).Positioned text :=
  positioned_leaf hs rfl rfl nofun

theorem Heads.names_positioned {callee : Callee} (h : Heads r callee p)
    (hr : r.StandsIn text) {name : Name} (hname : name ∈ callee.names) : name.Positioned text := by
  obtain ⟨u, hu, -, hk, rfl⟩ := h.exists_of_mem_names hr.laid hname
  exact (hu.standsIn hr).name (by rw [hk]; decide)

theorem Heads.standsIn {callee : Callee} (h : Heads r callee p) (hr : r.StandsIn text) :
    p.StandsIn text :=
  (h.follows hr.laid).standsIn hr.advance

/-- The span of a call. -/
theorem Heads.fits {callee : Callee} (hh : Heads r callee p) (hr : r.StandsIn text)
    (h : r.advance.Follows q) : Span.Fits text ⟨callee.start, q.lastEnd⟩ := by
  rw [hh.start_eq]
  exact h.fits hr (by rw [hh.kind]; decide)

/-- The places of all that is read fit the text. -/
theorem Reads.positioned (h : Reads r x q) (hr : r.StandsIn text) : x.Positioned text := by
  induction h with
  | number | string | name => exact Piece.positioned_leaf hr.fits rfl rfl nofun
  | unterminated => exact Piece.positioned_fail hr.fits
  | missing => exact Piece.positioned_fail hr.point
  | unexpected => exact Piece.positioned_fail ((hr.advance.skip _).spanFrom hr.fits)
  | tooDeep => exact Piece.positioned_fail ((hr.skip _).spanFrom hr.point)
  | @group r q c _ hc _ ih =>
    have hinside := (hc.follows hr.laid.advance).standsIn hr.advance
    have hcontent := ih hr.advance
    intro n hn
    rcases List.mem_cons.1 hn with rfl | hn
    · have hroot := hcontent c (.head _)
      refine ⟨?_, ?_, ?_⟩
      · rw [Expr.span_withSpan]
        exact hr.fits.merge hinside.fits
      · rw [Expr.accessors_withSpan]
        exact hroot.accessors
      · rw [Expr.names_withSpan]
        exact hroot.names
    · rw [Expr.descendants_withSpan] at hn
      exact hcontent n (.tail _ hn)
  | unclosed _ hc =>
    have hinside := (hc.follows hr.laid.advance).standsIn hr.advance
    exact Piece.positioned_fail (hinside.spanFrom hr.fits)
  | @signed _ _ _ v _ _ ih =>
    have hvalue := ih hr.advance
    intro n hn
    rcases List.mem_cons.1 hn with rfl | hn
    · exact ⟨hr.fits.merge (hvalue v (.head _)).span, nofun, nofun⟩
    · exact hvalue n hn
  | @operation r p q a c b ha _ _ iha ihc =>
    have hp := ((ha.follows hr.laid).standsIn hr).advance
    have hleft := iha hr
    have hright := ihc hp
    intro n hn
    rcases List.mem_cons.1 hn with rfl | hn
    · exact ⟨(hleft a (.head _)).span.merge (hright c (.head _)).span, nofun, nofun⟩
    have hn : n ∈ a.nodes ++ c.nodes := hn
    rcases List.mem_append.1 hn with hn | hn
    · exact hleft n hn
    · exact hright n hn
  | emptyCall hh =>
    have hend := (hh.follows hr.laid).advance.advance
    exact Piece.positioned_leaf (hh.fits hr hend) rfl rfl fun name => hh.names_positioned hr
  | @call r p q callee es hh _ _ hes ih =>
    have hopen := (hh.follows hr.laid).advance
    have hend := (hopen.trans (hes.follows hopen.laid)).afterInside p.span
    intro n hn
    rcases List.mem_cons.1 hn with rfl | hn
    · exact ⟨hh.fits hr hend, nofun, fun name => hh.names_positioned hr⟩
    · exact ih (hh.standsIn hr).advance n hn
  | @bareCall r p object behavior function hh _ =>
    have hnames : ∀ name ∈ [object, behavior, function], name.Positioned text :=
      fun name => hh.names_positioned hr
    have hobject := hnames object (.head _)
    have hfunction := hnames function (.tail _ (.tail _ (.head _)))
    exact Piece.positioned_leaf (hobject.span.merge hfunction.span) rfl rfl hnames
  | noFunction hk _ _ _ hp =>
    have hlast := (Reader.Follows.refl hr.laid.advance).advance.advance.advance
    rw [hp]
    exact Piece.positioned_leaf (hlast.fits hr (by rw [hk]; decide)) rfl rfl nofun
  | lastArgument _ _ ih =>
    intro n hn
    obtain ⟨e, he, hn⟩ := mem_argumentNodes_iff.1 hn
    rw [List.mem_singleton.1 he] at hn
    exact ih hr n hn
  | @argument _ _ _ e es he _ _ ihe ihes =>
    have hrest := ((he.follows hr.laid).standsIn hr).advance
    intro n hn
    have hn : n ∈ e.nodes ++ argumentNodes es := hn
    rcases List.mem_append.1 hn with hn | hn
    · exact ihe hr n hn
    · exact ihes hrest n hn
  | access hk _ has ih =>
    have hsteps := (has.follows hr.laid.advance).standsIn hr.advance
    obtain ⟨hnodes, haccessors⟩ := ih hr.advance
    intro n hn
    rcases List.mem_cons.1 hn with rfl | hn
    · refine ⟨hsteps.spanFrom hr.fits, haccessors, ?_⟩
      intro name hname
      rw [List.mem_singleton.1 hname]
      exact hr.name (by rw [hk]; decide)
    · exact hnodes n hn
  | noAccessor | noChild => exact ⟨nofun, nofun⟩
  | child _ _ _ ih =>
    obtain ⟨hnodes, haccessors⟩ := ih hr.advance.advance
    refine ⟨hnodes, ?_⟩
    intro a ha
    rcases List.mem_cons.1 ha with rfl | ha
    · exact hr.fits.merge hr.advance.fits
    · exact haccessors a ha
  | @index _ _ _ e as _ he _ _ ihe ihas =>
    have hindex := (he.follows hr.laid.advance).standsIn hr.advance
    obtain ⟨hnodes, haccessors⟩ := ihas hindex.advance
    constructor
    · intro n hn
      have hn : n ∈ e.nodes ++ accessorNodes as := hn
      rcases List.mem_append.1 hn with hn | hn
      · exact ihe hr.advance n hn
      · exact hnodes n hn
    · intro a ha
      rcases List.mem_cons.1 ha with rfl | ha
      · exact hr.fits.merge hindex.fits
      · exact haccessors a ha
  | openIndex _ he _ ih =>
    have hindex := (he.follows hr.laid.advance).standsIn hr.advance
    constructor
    · intro n hn
      obtain ⟨e, he, hn⟩ := mem_accessorNodes_iff.1 hn
      rw [List.mem_singleton.1 he] at hn
      exact ih hr.advance n hn
    · intro a ha
      rw [List.mem_singleton.1 ha]
      exact hindex.spanFrom hr.fits

end

/-! ### Diagnostics -/

/-- The places of all that a reader has reported fit the text. -/
def Reader.Sound (text : List Char) (r : Reader) : Prop := r.Reported (·.Positioned text)

section

variable {text : List Char} {r q : Reader} {x : Piece}

/-- A note of a diagnostic points at the bracket that was left open. -/
theorem Diagnostic.Positioned.of_note {problem : Problem} {s opening : Span} {said : String}
    (hs : s.Fits text) (ho : opening.Fits text) (h : problem.note? = some (said, opening)) :
    Positioned text ⟨problem, s⟩ := by
  refine ⟨hs, ?_⟩
  intro said' t ht
  rw [h] at ht
  rw [← (Prod.mk.inj (Option.some.inj ht)).2]
  exact ho

/-- The places of all that reading reports fit the text. -/
theorem Reads.sound (h : Reads r x q) (hr : r.StandsIn text) (hd : r.Sound text) :
    q.Sound text := by
  induction h with
  | number | string | name => exact hd.advance
  | unterminated => exact hd.advance.report (.of_no_note hr.fits rfl)
  | missing _ hnote _ => exact hd.report (.of_no_note hr.point hnote)
  | unexpected =>
    exact (hd.advance.skip _).report (.of_no_note ((hr.advance.skip _).spanFrom hr.fits) rfl)
  | tooDeep => exact (hd.skip _).report (.of_no_note ((hr.skip _).spanFrom hr.point) rfl)
  | group _ hc _ ih =>
    have hinside := (hc.follows hr.laid.advance).standsIn hr.advance
    have hspan := hr.fits.merge hinside.fits
    exact (ih hr.advance hd.advance).advance.afterGroup (.of_no_note hspan rfl) _
  | unclosed _ hc _ ih =>
    have hinside := (hc.follows hr.laid.advance).standsIn hr.advance
    exact (ih hr.advance hd.advance).report (.of_note (hinside.spanFrom hr.fits) hr.fits rfl)
  | signed _ _ ih => exact ih hr.advance hd.advance
  | operation ha _ _ iha ihc =>
    have hp := (ha.follows hr.laid).standsIn hr
    exact ihc hp.advance (iha hr hd).advance
  | emptyCall hh => exact (hh.reported hd).advance.advance
  | call hh _ _ hes ih =>
    have hopen := hh.standsIn hr
    have hinside := (hes.follows hopen.laid.advance).standsIn hopen.advance
    have hspan := hinside.spanFrom hopen.fits
    exact (ih hopen.advance (hh.reported hd).advance).afterInside (.of_note hspan hopen.fits rfl)
  | bareCall hh => exact (hh.reported hd).report (.of_no_note (hh.standsIn hr).fits rfl)
  | noFunction _ _ _ _ hp =>
    rw [hp]
    have hlast := hr.advance.advance.advance.advance
    exact hd.advance.advance.advance.advance.report (.of_no_note hlast.fits rfl)
  | lastArgument _ _ ih => exact ih hr hd
  | argument he _ _ ihe ihes =>
    have hfirst := (he.follows hr.laid).standsIn hr
    exact ihes hfirst.advance (ihe hr hd).advance
  | access _ _ _ ih => exact ih hr.advance hd.advance
  | noAccessor => exact hd
  | noChild => exact hd.advance.report (.of_no_note hr.advance.fits rfl)
  | child _ _ _ ih => exact ih hr.advance.advance hd.advance.advance
  | index _ he _ _ ihe ihas =>
    have hindex := (he.follows hr.laid.advance).standsIn hr.advance
    exact ihas hindex.advance (ihe hr.advance hd.advance).advance
  | openIndex _ he _ ih =>
    have hindex := (he.follows hr.laid.advance).standsIn hr.advance
    exact (ih hr.advance hd.advance).report (.of_note (hindex.spanFrom hr.fits) hr.fits rfl)

end

/-! ### Whole texts -/

theorem Reader.start_standsIn (source : String) : (start source).StandsIn source.toList :=
  ⟨start_laid source, rfl⟩

/-- The places of the tree of a text and of what was found while reading it fit the text. -/
theorem parse_positioned (source : String) :
    (∀ n ∈ (parse source).root.nodes, n.Positioned source.toList) ∧
      ∀ d ∈ (parse source).diagnostics, d.Positioned source.toList := by
  have hstart := Reader.start_standsIn source
  unfold parse
  dsimp only
  split
  · refine ⟨?_, nofun⟩
    exact Piece.positioned_leaf (e := .empty _) hstart.fits rfl rfl nofun
  · have hreads := expression_reads nestingLimit 0 (Reader.start source)
    have hend := (hreads.follows hstart.laid).standsIn hstart
    refine ⟨hreads.positioned hstart, ?_⟩
    refine (hreads.sound hstart nofun).closeText ?_
    intro problem hproblem
    refine .of_no_note ((hend.skip _).spanFrom hend.point) ?_
    simp only [List.mem_cons, List.not_mem_nil, or_false] at hproblem
    rcases hproblem with rfl | rfl <;> rfl

end EventSheet
