import EventSheet.Proofs.Lexing.Positions
import EventSheet.Proofs.Reading.Productions

/-!
# Reading moves forward

A reader is laid out when its tokens are laid out in the text behind the last token taken, and the
group closed last ended there or before. Reading keeps that, and it only moves forward in the text:
`Reads.follows`.
-/

namespace EventSheet

open Text (byteLength)

namespace Reader

/-- The tokens to come are laid out in what is left of the text behind the last token taken, and the
group closed last ended there or before. -/
structure Laid (r : Reader) : Prop where
  tokens : ∃ before after, r.source = before ++ after ∧ byteLength before = r.lastEnd ∧
    Token.Laid r.lastEnd after r.tokens
  group : ∀ g, r.lastGroup = some g → g.stop ≤ r.lastEnd

theorem start_laid (source : String) : (start source).Laid :=
  ⟨⟨[], source.toList, rfl, rfl, Token.lexFrom_laid 0 source.toList⟩, nofun⟩

section

variable {r : Reader}

theorem advance_of_nil (h : r.tokens = []) : r.advance = r := by
  simp [advance, h]

@[simp] theorem advance_lastGroup (r : Reader) : r.advance.lastGroup = r.lastGroup := by
  unfold advance
  split <;> rfl

@[simp] theorem report_span (r : Reader) (p : Problem) (s : Span) : (r.report p s).span = r.span :=
  rfl

theorem exists_tokens (h : r.kind ≠ .eof) : ∃ t ts, r.tokens = t :: ts := by
  obtain ⟨t, ts, htok, -⟩ := exists_tokens_of_kind rfl h
  exact ⟨t, ts, htok⟩

/-- How the token at a laid reader stands in the text. -/
theorem Laid.exists_parts {t : Token} {ts : List Token} (h : r.Laid) (htok : r.tokens = t :: ts) :
    ∃ before gap text rest, r.source = before ++ (gap ++ (text ++ rest)) ∧
      byteLength before = r.lastEnd ∧ text ≠ [] ∧ t.text = String.ofList text ∧
      t.span = ⟨r.lastEnd + byteLength gap, r.lastEnd + byteLength gap + byteLength text⟩ ∧
      Token.Laid t.span.stop rest ts := by
  obtain ⟨before, after, hsource, hlen, hlaid⟩ := h.tokens
  rw [htok] at hlaid
  cases hlaid with
  | @token _ gap text rest _ _ _ htext hspelled hspan hrest =>
    exact ⟨before, gap, text, rest, hsource, hlen, htext, hspelled, hspan, hrest⟩

theorem Laid.lastEnd_le_length (h : r.Laid) : r.lastEnd ≤ byteLength r.source := by
  obtain ⟨before, after, hsource, hlen, -⟩ := h.tokens
  rw [hsource, Text.byteLength_append]
  omega

theorem Laid.lastEnd_le (h : r.Laid) : r.lastEnd ≤ r.span.start := by
  cases htok : r.tokens with
  | nil =>
    have hspan : r.span = Span.point (byteLength r.source) := by
      simp [span, token, htok, Token.atEnd]
    rw [hspan]
    exact h.lastEnd_le_length
  | cons t ts =>
    obtain ⟨before, gap, text, rest, -, -, -, -, hspan, -⟩ := h.exists_parts htok
    rw [span_eq htok, hspan]
    exact Nat.le_add_right _ _

/-- A token takes some of the text. -/
theorem Laid.span_lt (h : r.Laid) (hk : r.kind ≠ .eof) : r.span.start < r.span.stop := by
  obtain ⟨t, ts, htok⟩ := exists_tokens hk
  obtain ⟨before, gap, text, rest, -, -, htext, -, hspan, -⟩ := h.exists_parts htok
  have hpos := Text.byteLength_pos htext
  rw [span_eq htok, hspan]
  dsimp only
  omega

theorem advance_lastEnd (hk : r.kind ≠ .eof) : r.advance.lastEnd = r.span.stop := by
  obtain ⟨t, ts, htok⟩ := exists_tokens hk
  rw [advance_lastEnd_eq htok, span_eq htok]

theorem Laid.advance (h : r.Laid) : r.advance.Laid := by
  cases htok : r.tokens with
  | nil =>
    rw [advance_of_nil htok]
    exact h
  | cons t ts =>
    obtain ⟨before, gap, text, rest, hsource, hlen, -, -, hspan, hrest⟩ := h.exists_parts htok
    constructor
    · refine ⟨before ++ (gap ++ text), rest, ?_, ?_, ?_⟩
      · rw [advance_source, hsource]
        simp only [List.append_assoc]
      · rw [advance_lastEnd_eq htok, hspan, Text.byteLength_append, Text.byteLength_append, hlen]
        exact (Nat.add_assoc _ _ _).symm
      · rw [advance_lastEnd_eq htok, advance_tokens_eq htok]
        exact hrest
    · intro g hg
      rw [advance_lastGroup] at hg
      have hbefore := h.group g hg
      rw [advance_lastEnd_eq htok, hspan]
      dsimp only
      omega

theorem Laid.report (h : r.Laid) (p : Problem) (s : Span) : (r.report p s).Laid :=
  ⟨h.tokens, h.group⟩

theorem Laid.closeGroup (h : r.Laid) {s : Span} (hs : s.stop ≤ r.lastEnd) :
    (r.closeGroup s).Laid := by
  refine ⟨h.tokens, ?_⟩
  intro g hg
  rw [← Option.some.inj hg]
  exact hs

theorem Laid.ordered (h : r.Laid) : r.span.start ≤ r.span.stop := by
  by_cases hk : r.kind = .eof
  · cases htok : r.tokens with
    | nil => simp [span, token, htok, Token.atEnd, Span.point]
    | cons t ts =>
      obtain ⟨before, gap, text, rest, -, -, -, -, hspan, -⟩ := h.exists_parts htok
      rw [span_eq htok, hspan]
      exact Nat.le_add_right _ _
  · exact Nat.le_of_lt (h.span_lt hk)

end

/-! ### Moving forward -/

/-- The second reader is laid out and stands at the first one or further on in the same text, and
the group closed last, if it was closed between them, begins behind the first one. -/
structure Follows (r q : Reader) : Prop where
  laid : q.Laid
  source : q.source = r.source
  lastEnd : r.lastEnd ≤ q.lastEnd
  start : r.span.start ≤ q.span.start
  group : q.lastGroup = r.lastGroup ∨ ∃ g, q.lastGroup = some g ∧ r.span.start ≤ g.start

section

variable {r p q : Reader}

theorem Follows.refl (h : r.Laid) : r.Follows r :=
  ⟨h, rfl, Nat.le_refl _, Nat.le_refl _, .inl rfl⟩

theorem Follows.trans (h : r.Follows p) (h' : p.Follows q) : r.Follows q := by
  refine ⟨h'.laid, h'.source.trans h.source, Nat.le_trans h.lastEnd h'.lastEnd,
    Nat.le_trans h.start h'.start, ?_⟩
  rcases h'.group with hsame | ⟨g, hg, hstart⟩
  · rw [hsame]
    exact h.group
  · exact .inr ⟨g, hg, Nat.le_trans h.start hstart⟩

/-- A token ends before the next one begins. -/
theorem Laid.stop_le (h : r.Laid) : r.span.stop ≤ r.advance.span.start := by
  cases htok : r.tokens with
  | nil =>
    rw [advance_of_nil htok]
    simp [span, token, htok, Token.atEnd, Span.point]
  | cons t ts =>
    have hnext := h.advance.lastEnd_le
    rwa [advance_lastEnd_eq htok, ← span_eq htok] at hnext

theorem Laid.follows_advance (h : r.Laid) : r.Follows r.advance := by
  have hordered := h.ordered
  refine ⟨h.advance, r.advance_source, ?_, Nat.le_trans hordered h.stop_le, .inl (by simp)⟩
  cases htok : r.tokens with
  | nil => exact Nat.le_of_eq (by rw [advance_of_nil htok])
  | cons t ts =>
    have hlast := h.lastEnd_le
    rw [advance_lastEnd_eq htok, ← span_eq htok]
    omega

theorem Follows.advance (h : r.Follows p) : r.Follows p.advance :=
  h.trans h.laid.follows_advance

theorem Follows.skip (h : r.Follows p) (n : Nat) : r.Follows (skip n p) := by
  induction n generalizing p with
  | zero => exact h
  | succ n ih => exact ih h.advance

theorem Follows.report (h : r.Follows p) (problem : Problem) (s : Span) :
    r.Follows (p.report problem s) :=
  ⟨h.laid.report problem s, h.source, h.lastEnd, h.start, h.group⟩

theorem Follows.fail (h : r.Follows p) (problem : Problem) (reason : String) (s : Span) :
    r.Follows (p.fail problem reason s).2 :=
  h.report problem s

theorem Follows.closeGroup (h : r.Follows p) {s : Span} (hstart : r.span.start ≤ s.start)
    (hstop : s.stop ≤ p.lastEnd) : r.Follows (p.closeGroup s) :=
  ⟨h.laid.closeGroup hstop, h.source, h.lastEnd, h.start, .inr ⟨s, rfl, hstart⟩⟩

/-- A group closed before a token ends before it, and one closed after it begins after it. So
neither covers the token. -/
theorem Follows.lastGroup_ne (h : r.advance.Follows q) (hr : r.Laid) (hk : r.kind ≠ .eof)
    {s : Span} (hstart : s.start ≤ r.span.start) (hstop : r.span.stop ≤ s.stop) :
    q.lastGroup ≠ some s := by
  intro hlast
  have hlt := hr.span_lt hk
  rcases h.group with hsame | ⟨g, hg, hafter⟩
  · rw [hsame, advance_lastGroup] at hlast
    have hbefore := hr.group s hlast
    have hend := hr.lastEnd_le
    omega
  · obtain rfl : g = s := Option.some.inj (hg.symm.trans hlast)
    have hnext := hr.stop_le
    omega

end

end Reader

section Groups

variable (content : Expr) (s : Span) (r : Reader)

@[simp] theorem afterGroup_span : (afterGroup content s r).span = r.span := by
  unfold afterGroup
  split <;> rfl

@[simp] theorem afterGroup_lastEnd : (afterGroup content s r).lastEnd = r.lastEnd := by
  unfold afterGroup
  split <;> rfl

@[simp] theorem afterGroup_lastGroup : (afterGroup content s r).lastGroup = some s := rfl

end Groups

theorem Reader.Follows.afterGroup {r p : Reader} (h : r.Follows p) (content : Expr) {s : Span}
    (hstart : r.span.start ≤ s.start) (hstop : s.stop ≤ p.lastEnd) :
    r.Follows (afterGroup content s p) := by
  unfold EventSheet.afterGroup
  split
  · exact (h.report _ _).closeGroup hstart hstop
  · exact h.closeGroup hstart hstop

theorem Reader.Follows.afterInside {r p : Reader} (h : r.Follows p) (opening : Span) :
    r.Follows (afterInside opening p) := by
  unfold EventSheet.afterInside
  split
  · exact h.advance
  · exact h.report _ _

/-! ### Callees -/

theorem Heads.kind {r p : Reader} {callee : Callee} (h : Heads r callee p) : r.kind = .ident := by
  cases h <;> assumption

theorem Heads.start_eq {r p : Reader} {callee : Callee} (h : Heads r callee p) :
    callee.start = r.span.start := by
  cases h <;> rfl

theorem Heads.follows {r p : Reader} {callee : Callee} (h : Heads r callee p) (hr : r.Laid) :
    r.advance.Follows p := by
  have hnext := Reader.Follows.refl hr.advance
  cases h with
  | free => exact hnext
  | onObject => exact hnext.advance.advance
  | onBehavior => exact hnext.advance.advance.advance.advance

/-! ### Readings -/

section

variable {r q : Reader} {x : Piece}

/-- Reading moves forward and keeps readers laid out. -/
theorem Reads.follows (h : Reads r x q) (hr : r.Laid) : r.Follows q := by
  induction h with
  | number | string | name => exact hr.follows_advance
  | unterminated => exact hr.follows_advance.fail _ _ _
  | missing => exact (Reader.Follows.refl hr).fail _ _ _
  | unexpected => exact (hr.follows_advance.skip _).fail _ _ _
  | tooDeep => exact ((Reader.Follows.refl hr).skip _).fail _ _ _
  | @group r q c hopen _ hclose ih =>
    have hinside := hr.follows_advance.trans (ih hr.advance)
    refine hinside.advance.afterGroup c ?_ ?_
    · exact Nat.le_min.2 ⟨Nat.le_refl _, hinside.start⟩
    · have hend := Reader.advance_lastEnd (r := q) (by rw [hclose]; decide)
      have hfirst := hr.span_lt (by rw [hopen]; decide)
      have hnext := hr.stop_le
      have hstart := (ih hr.advance).start
      have hordered := hinside.laid.ordered
      rw [hend]
      exact Nat.max_le.2 ⟨by omega, Nat.le_refl _⟩
  | unclosed _ _ _ ih => exact (hr.follows_advance.trans (ih hr.advance)).fail _ _ _
  | signed _ _ ih => exact hr.follows_advance.trans (ih hr.advance)
  | operation _ _ _ iha ihc =>
    have ha := iha hr
    exact ha.advance.trans (ihc ha.laid.advance)
  | emptyCall hh => exact (hr.follows_advance.trans (hh.follows hr)).advance.advance
  | call hh _ _ _ ih =>
    have hp := (hr.follows_advance.trans (hh.follows hr)).advance
    exact (hp.trans (ih hp.laid)).afterInside _
  | bareCall hh => exact (hr.follows_advance.trans (hh.follows hr)).report _ _
  | noFunction _ _ _ _ hp =>
    rw [hp]
    exact hr.follows_advance.advance.advance.advance.report _ _
  | lastArgument _ _ ih => exact ih hr
  | argument _ _ _ ihe ihes =>
    have he := (ihe hr).advance
    exact he.trans (ihes he.laid)
  | access _ _ _ ih => exact hr.follows_advance.trans (ih hr.advance)
  | noAccessor => exact .refl hr
  | noChild => exact hr.follows_advance.report _ _
  | child _ _ _ ih =>
    have hchild := hr.follows_advance.advance
    exact hchild.trans (ih hchild.laid)
  | index _ _ _ _ ihe ihas =>
    have he := (hr.follows_advance.trans (ihe hr.advance)).advance
    exact he.trans (ihas he.laid)
  | openIndex _ _ _ ih => exact (hr.follows_advance.trans (ih hr.advance)).report _ _

end

end EventSheet
