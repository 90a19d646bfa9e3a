import EventSheet.Proofs.Reading.Assembly
import EventSheet.Proofs.Reading.Skipping

/-!
# Progress of reading

Reading comes to an end with a bounded amount of work. `Traced.text` reads a whole text and keeps
every visit it makes: the entry of every expression and the head of every iteration of a loop. It
gives what reading gives, and `reading_progresses` bounds the work: reading only goes forward, every
iteration that does not leave its loop takes a token, and expressions are entered behind all those
around them and at most once for each token, and once at the start. The paths of recovery take
nothing themselves. They are no exception, since what goes on after them is behind a token that was
taken before.
-/

namespace EventSheet

open Effectful (Yields)

namespace Traced

/-! ### Expressions -/

mutual

/-- An expression with at most the given levels of nesting. -/
def expression : Nat → Nat → Reader → Traced (Expr × Reader)
  | 0, _, r => enter r (Effectful.tooDeep r)
  | levels + 1, strength, r => enter r do
    let (left, r) ← Effectful.operand (fun strength r => expression levels strength r) r
    operations levels strength left r

/-- The operators after a left operand. Where no level is left, the loop comes to its head once more
and leaves, since the skip has ended at a boundary. -/
def operations : Nat → Nat → Expr → Reader → Traced (Expr × Reader)
  | 0, strength, left, r => do
    Watch.visit .operators r
    match r.kind.binding? with
    | none => return (left, r)
    | some b =>
      if b.left < strength then return (left, r)
      else
        let (right, r) ← enter r.advance (Effectful.tooDeep r.advance)
        Watch.visit .operators r
        return (.binary b.operator left right (left.span.merge right.span), r)
  | levels + 1, strength, left, r => do
    Watch.visit .operators r
    match r.kind.binding? with
    | none => return (left, r)
    | some b =>
      if b.left < strength then return (left, r)
      else
        let (right, r) ← expression levels b.right r.advance
        operations levels strength
          (.binary b.operator left right (left.span.merge right.span)) r

end

/-- Takes the tokens after an expression. -/
def closeText (r : Reader) : Traced Reader :=
  if r.kind = .eof then return r
  else do
    let here := Span.point r.span.start
    let problem : Problem :=
      if r.kind = .closeParen then .unexpectedClosingParenthesis else .extraCharacters
    let r ← Effectful.skipping .text r.tokens.length r
    return r.report problem (r.spanFrom here)

/-- Reads a whole text, with the reader before its first token. -/
def text (r : Reader) : Traced (Expr × Reader) :=
  if r.kind = .eof then return (.empty r.span, r)
  else do
    let (root, r) ← expression nestingLimit 0 r
    let r ← closeText r
    return (root, r)

/-! ### Results -/

mutual

theorem result_expression : ∀ (levels strength : Nat) (r : Reader),
    (expression levels strength r).result = EventSheet.expression levels strength r
  | 0, _, r => yields.tooDeep r
  | levels + 1, strength, r => by
    have hoperand : Traced.result _ = _ :=
      yields.operand (fun s r => result_expression levels s r) r
    rw [expression, result_enter, result_bind, hoperand, expression_succ]
    exact result_operations levels strength _ _

theorem result_operations : ∀ (levels strength : Nat) (left : Expr) (r : Reader),
    (operations levels strength left r).result = EventSheet.operations levels strength left r
  | levels, strength, left, r => by
    rcases hb : r.kind.binding? with _ | b
    · rw [operations_of_none levels left hb]
      cases levels <;> simp [operations, hb]
    by_cases hlt : b.left < strength
    · rw [operations_of_lt levels left hb hlt]
      cases levels <;> simp [operations, hb, hlt]
    match levels with
    | 0 =>
      have hright : Traced.result _ = _ := yields.tooDeep r.advance
      rw [operations_zero left hb hlt]
      simp [operations, hb, hlt, hright]
    | levels + 1 =>
      rw [operations_succ levels left hb hlt, ← result_expression levels b.right r.advance]
      simp only [operations, hb, hlt, if_false, result_bind]
      exact result_operations levels strength _ _

end

/-! ### Parts of an operand -/

/-- The visits of a part of an operand, none of them to the loop over the operators around it. -/
structure Part (r : Reader) (vs : List Visit) (q : Reader) : Prop where
  trail : Trail r.tokens vs q.tokens
  own : ∀ v ∈ vs, v.within = [] → v.place ≠ .operators

/-- What is needed of a reader for one level further down: it makes its visits on its way, and the
only one that is not inside of an expression is the entry. -/
structure Enters (inner : Effectful.ExprReader Traced) (plain : ExprReader) : Prop where
  result : ∀ s r, (inner s r).result = plain s r
  trail : ∀ s r, Trail r.tokens (inner s r).visits (plain s r).2.tokens
  own : ∀ s r, ∀ v ∈ (inner s r).visits, v.within = [] → v.place = .entry

section

variable {r p q : Reader} {vs : List Visit} {place : Waypoint}

theorem Part.nil (h : r.Leads q) : Part r [] q := ⟨.nil h.tokens, nofun⟩

theorem Part.start (h : Part p vs q) (hr : r.Leads p) : Part r vs q :=
  ⟨h.trail.start hr.tokens, h.own⟩

theorem Part.stop (h : Part r vs p) (hp : p.Leads q) : Part r vs q :=
  ⟨h.trail.stop hp.tokens, h.own⟩

/-- The head of a loop before a token that its iteration takes. -/
theorem Part.visit (h : Part p vs q) (hp : r.Leads p) (hlt : p.tokens.length < r.tokens.length)
    (hplace : place ≠ .cutoff) (hother : place ≠ .operators) :
    Part r (⟨place, [], r.tokens⟩ :: vs) q where
  trail := h.trail.visit_of_lt hplace hp.tokens hlt
  own := List.forall_mem_cons.2 ⟨fun _ => hother, h.own⟩

/-- The head of a loop that is left. -/
theorem Part.single (h : r.Leads q) (hplace : place ≠ .cutoff) (hother : place ≠ .operators) :
    Part r [⟨place, [], r.tokens⟩] q where
  trail := .single hplace h.tokens
  own := List.forall_mem_singleton.2 fun _ => hother

/-! ### Skipping -/

theorem of_mem_skipping {n : Nat} {v : Visit}
    (hv : v ∈ (Effectful.skipping place n r : Traced Reader).visits) :
    v.place = place ∧ v.within = [] := by
  induction n generalizing r with
  | zero =>
    rw [List.mem_singleton.1 hv]
    exact ⟨rfl, rfl⟩
  | succ n ih =>
    rcases List.mem_cons.1 hv with rfl | hv
    · exact ⟨rfl, rfl⟩
    · exact ih hv

/-- A skip takes a token in every iteration when there are as many. -/
theorem skipping_part {n : Nat} (hn : n ≤ r.tokens.length) (hplace : place ≠ .cutoff)
    (hother : place ≠ .operators) :
    Part r (Effectful.skipping place n r : Traced Reader).visits (r.skip n) := by
  induction n generalizing r with
  | zero => exact .single (.refl r) hplace hother
  | succ n ih =>
    cases htok : r.tokens with
    | nil =>
      rw [htok] at hn
      exact absurd hn (Nat.not_succ_le_zero n)
    | cons t ts =>
      have hadvance := Reader.advance_tokens_eq htok
      rw [htok, List.length_cons] at hn
      refine (ih ?_).visit r.advance_leads ?_ hplace hother
      · rw [hadvance]
        exact Nat.le_of_succ_le_succ hn
      · rw [hadvance, htok]
        exact Nat.lt_succ_self _

theorem length_levelRun_le (opened : Nat) (ts : List Token) :
    (levelRun opened ts).length ≤ ts.length := by
  induction ts generalizing opened with
  | nil => exact Nat.le_refl _
  | cons t ts ih =>
    unfold levelRun
    repeat' split
    all_goals simp [ih]

theorem tooDeep_part (r : Reader) :
    Part r (Effectful.tooDeep r : Traced (Expr × Reader)).visits (EventSheet.tooDeep r).2 := by
  have hskip : Part r (Effectful.skipping .level _ r : Traced Reader).visits _ :=
    skipping_part (length_levelRun_le 0 r.tokens) nofun nofun
  rw [Effectful.tooDeep, visits_bind, visits_pure, List.append_nil]
  exact hskip.stop (Reader.fail_leads _ _ _ _)

end

/-! ### Operands -/

section

variable {inner : Effectful.ExprReader Traced} {plain : ExprReader} (hi : Enters inner plain)

include hi

theorem Assembled.trail {ts us : List Token} {vs : List Visit}
    (h : Assembled inner plain ts vs us) : Trail ts vs us := by
  induction h with
  | nil => exact .nil (List.suffix_refl _)
  | between _ hts hus ih => exact (ih.start hts).stop hus
  | expression s r => exact hi.trail s r
  | append _ _ hmid hlt ih ih' => exact ih.append_of_lt ih' hmid hlt
  | @skip n r hn =>
    have hskip : Part r (Effectful.skipping .operand n r : Traced Reader).visits _ :=
      skipping_part hn nofun nofun
    exact hskip.trail
  | argument r =>
    refine (hi.trail 0 r).visit nofun ?_
    intro w hw hplace hown
    exact nomatch hplace.trans (hi.own 0 r w hw (hown.resolve_right nofun))
  | accessor _ hts hlt ih => exact ih.visit_of_lt nofun hts hlt
  | noAccessor => exact .single nofun (List.suffix_refl _)

theorem Assembled.own {ts us : List Token} {vs : List Visit}
    (h : Assembled inner plain ts vs us) : ∀ v ∈ vs, v.within = [] → v.place ≠ .operators := by
  have hentry : ∀ s r, ∀ v ∈ (inner s r).visits, v.within = [] → v.place ≠ .operators := by
    intro s r v hv hwithin
    rw [hi.own s r v hv hwithin]
    nofun
  induction h with
  | nil => nofun
  | between _ _ _ ih => exact ih
  | expression s r => exact hentry s r
  | append _ _ _ _ ih ih' => exact List.forall_mem_append.2 ⟨ih, ih'⟩
  | skip hn =>
    intro v hv _
    rw [(of_mem_skipping hv).1]
    nofun
  | argument r => exact List.forall_mem_cons.2 ⟨nofun, hentry 0 r⟩
  | accessor _ _ _ ih => exact List.forall_mem_cons.2 ⟨nofun, ih⟩
  | noAccessor => exact List.forall_mem_singleton.2 nofun

/-- All visits of an operand are behind its first token; where it is missing, there are none. -/
theorem operand_part (hl : plain.Leads) (r : Reader) :
    Part r (Effectful.operand inner r).visits (EventSheet.operand plain r).2 ∧
      ∀ v ∈ (Effectful.operand inner r).visits, v.rest.length < r.tokens.length := by
  rcases operand_assembled hi.result hl r with hnone | ⟨hk, h⟩
  · rw [hnone]
    exact ⟨.nil (operand_leads hl r), nofun⟩
  · have hpart : Part r.advance _ _ := ⟨h.trail hi, h.own hi⟩
    refine ⟨hpart.start r.advance_leads, fun v hv => ?_⟩
    exact hpart.trail.lt_of_mem (Reader.advance_lt rfl hk) hv

end

/-! ### Operators -/

/-- The visits of the loop over the operators: its first head, and all else behind a token. -/
structure Loop (r : Reader) (vs : List Visit) (q : Reader) : Prop where
  trail : Trail r.tokens vs q.tokens
  behind : ∀ v ∈ vs, v = ⟨.operators, [], r.tokens⟩ ∨ v.rest.length < r.tokens.length

section

variable {r p q : Reader} {vs ws : List Visit}

/-- The loop after a part of which none of the visits is to the loop. -/
theorem Part.loop (h : Part r vs p) (h' : Loop p ws q) : Trail r.tokens (vs ++ ws) q.tokens := by
  refine h.trail.append h'.trail ?_
  intro v hv w hw hclash
  rcases h'.behind w hw with rfl | hlt
  · have hwithin : v.within = [] := hclash.2.resolve_right (by rw [hclash.1]; nofun)
    exact absurd hclash.1 (h.own v hv hwithin)
  · exact Nat.lt_of_lt_of_le hlt (h.trail.between v hv).1.length_le

theorem Loop.leave (r : Reader) : Loop r [⟨.operators, [], r.tokens⟩] r where
  trail := .single nofun (List.suffix_refl _)
  behind := List.forall_mem_singleton.2 (.inl rfl)

/-- An iteration takes the operator. -/
theorem Loop.next (h : Part r.advance vs p) (h' : Loop p ws q)
    (hlt : r.advance.tokens.length < r.tokens.length) :
    Loop r (⟨.operators, [], r.tokens⟩ :: (vs ++ ws)) q where
  trail := (h.loop h').visit_of_lt nofun r.advance_leads.tokens hlt
  behind := List.forall_mem_cons.2 ⟨.inl rfl, fun _ hv => .inr ((h.loop h').lt_of_mem hlt hv)⟩

theorem own_enter {α : Type} {x : Traced α} {v : Visit} (hv : v ∈ (enter r x).visits)
    (hwithin : v.within = []) : v.place = .entry := by
  rcases List.mem_cons.1 hv with rfl | hv
  · rfl
  · obtain ⟨w, -, rfl⟩ := List.mem_map.1 hv
    exact nomatch hwithin

theorem own_expression {levels strength : Nat} {v : Visit}
    (hv : v ∈ (expression levels strength r).visits) (hwithin : v.within = []) :
    v.place = .entry := by
  cases levels <;> exact own_enter hv hwithin

theorem Part.of_enter {α : Type} {x : Traced α}
    (h : Trail r.tokens (enter r x).visits q.tokens) : Part r (enter r x).visits q := by
  refine ⟨h, fun v hv hwithin => ?_⟩
  rw [own_enter hv hwithin]
  nofun

/-- An expression past the nesting limit. -/
theorem enter_tooDeep_trail (r : Reader) :
    Trail r.tokens (enter r (Effectful.tooDeep r)).visits (EventSheet.tooDeep r).2.tokens := by
  refine (tooDeep_part r).trail.enter ?_
  intro v hv hplace
  rw [Effectful.tooDeep, visits_bind, visits_pure, List.append_nil] at hv
  rw [(of_mem_skipping hv).1] at hplace
  exact nomatch hplace

end

mutual

/-- The trail through an expression. -/
theorem expression_trail : ∀ (levels strength : Nat) (r : Reader),
    Trail r.tokens (expression levels strength r).visits
      (EventSheet.expression levels strength r).2.tokens
  | 0, _, r => enter_tooDeep_trail r
  | levels + 1, strength, r => by
    have hi : Enters (fun s r => expression levels s r)
        (fun s r => EventSheet.expression levels s r) :=
      ⟨result_expression levels, expression_trail levels, fun _ _ _ => own_expression⟩
    obtain ⟨hpart, hbehind⟩ := operand_part hi (leads_expression levels) r
    have hloop := operations_loop levels strength
      (EventSheet.operand (fun s r => EventSheet.expression levels s r) r).1
      (EventSheet.operand (fun s r => EventSheet.expression levels s r) r).2
    have hoperand : Traced.result _ = _ := yields.operand (result_expression levels) r
    rw [expression, visits_enter, visits_bind, hoperand, expression_succ]
    refine (hpart.loop hloop).enter ?_
    intro v hv hplace
    rcases List.mem_append.1 hv with hv | hv
    · exact hbehind v hv
    · rcases hloop.behind v hv with rfl | hlt
      · exact nomatch hplace
      · exact Nat.lt_of_lt_of_le hlt hpart.trail.forward.length_le

/-- The trail through the operators after a left operand. -/
theorem operations_loop : ∀ (levels strength : Nat) (left : Expr) (r : Reader),
    Loop r (operations levels strength left r).visits
      (EventSheet.operations levels strength left r).2
  | levels, strength, left, r => by
    rcases hb : r.kind.binding? with _ | b
    · rw [operations_of_none levels left hb]
      cases levels <;> simpa [operations, hb] using Loop.leave r
    by_cases hlt : b.left < strength
    · rw [operations_of_lt levels left hb hlt]
      cases levels <;> simpa [operations, hb, hlt] using Loop.leave r
    have hadvance := Reader.advance_lt rfl (Reader.kind_ne_eof_of_binding hb)
    match levels with
    | 0 =>
      have hright : Traced.result _ = _ := yields.tooDeep r.advance
      have hpart := Part.of_enter (enter_tooDeep_trail r.advance)
      rw [operations_zero left hb hlt]
      simpa [operations, hb, hlt, hright] using Loop.next hpart (.leave _) hadvance
    | levels + 1 =>
      have hright := result_expression levels b.right r.advance
      have hpart : Part r.advance (expression levels b.right r.advance).visits
          (EventSheet.expression levels b.right r.advance).2 :=
        ⟨expression_trail levels b.right r.advance, fun v hv hwithin => by
          rw [own_expression hv hwithin]; nofun⟩
      rw [operations_succ levels left hb hlt]
      simpa [operations, hb, hlt, hright] using
        Loop.next hpart (operations_loop levels strength _ _) hadvance

end

/-! ### Whole texts -/

/-- The tokens after an expression are skipped, in a loop of its own. -/
theorem closeText_trail (r : Reader) :
    Trail r.tokens (closeText r).visits (EventSheet.closeText r).tokens ∧
      ∀ v ∈ (closeText r).visits, v.place = .text ∧ v.within = [] := by
  unfold closeText EventSheet.closeText
  split
  · exact ⟨.nil (List.suffix_refl _), nofun⟩
  · have hskip : Part r (Effectful.skipping .text r.tokens.length r : Traced Reader).visits _ :=
      skipping_part (Nat.le_refl _) nofun nofun
    rw [visits_bind, visits_pure, List.append_nil]
    exact ⟨hskip.trail, fun v => of_mem_skipping⟩

theorem result_closeText (r : Reader) : (closeText r).result = EventSheet.closeText r := by
  unfold closeText EventSheet.closeText
  split
  · rfl
  · have hskip : Traced.result _ = _ := yields.skipping .text r.tokens.length r
    rw [result_bind, hskip]
    rfl

/-- What is watched is the reading of a text. -/
theorem result_text (source : String) :
    (parse source).root = (text (Reader.start source)).result.1 ∧
      (parse source).diagnostics = (text (Reader.start source)).result.2.diagnostics.toList := by
  unfold text parse
  dsimp only
  split
  · exact ⟨rfl, rfl⟩
  · rw [result_bind, result_bind, result_pure, result_closeText, result_expression]
    exact ⟨rfl, rfl⟩

/-- The trail through a whole text. -/
theorem text_trail (r : Reader) : ∃ us, Trail r.tokens (text r).visits us := by
  unfold text
  split
  · exact ⟨r.tokens, .nil (List.suffix_refl _)⟩
  · have hexpression := expression_trail nestingLimit 0 r
    obtain ⟨hclose, hown⟩ := closeText_trail (EventSheet.expression nestingLimit 0 r).2
    rw [visits_bind, result_expression]
    dsimp only
    rw [visits_bind, visits_pure, List.append_nil]
    refine ⟨_, hexpression.append hclose ?_⟩
    intro v hv w hw hclash
    obtain ⟨hplace, hwithin⟩ := hown w hw
    have hother : v.place ≠ .entry := by rw [hclash.1, hplace]; nofun
    have hnil : v.within = [] := (hclash.2.resolve_right hother).trans hwithin
    exact absurd (own_expression hv hnil) hother

end Traced

/-- Reading comes to an end with bounded work, whatever the tokens are. The visits that are watched
are those of the reading that `parse` does. No bound on a loop is ever reached. What is to come at a
visit is always an end of the tokens, and an end of what was to come at the visits before, so that
reading never goes back and never past the last token. An expression is entered behind a token that
was taken after all expressions around it had been entered. Between two visits to the head of one
loop a token is taken. And expressions are entered at most once for each token, and once more. -/
theorem reading_progresses :
    (∀ source, (parse source).root = (Traced.text (Reader.start source)).result.1 ∧
      (parse source).diagnostics =
        (Traced.text (Reader.start source)).result.2.diagnostics.toList) ∧
    ∀ r : Reader,
      let visits := (Traced.text r).visits
      (∀ v ∈ visits, v.place ≠ .cutoff ∧ v.rest <:+ r.tokens) ∧
      visits.Pairwise (fun v w => w.rest <:+ v.rest) ∧
      (∀ v ∈ visits, v.place = .entry → ∀ entered ∈ v.within, v.rest.length < entered.length) ∧
      visits.Pairwise (fun v w => v.place = w.place → v.within = w.within →
        w.rest.length < v.rest.length) ∧
      visits.countP (·.place == .entry) ≤ r.tokens.length + 1 := by
  refine ⟨Traced.result_text, ?_⟩
  intro r visits
  obtain ⟨us, htrail⟩ := Traced.text_trail r
  refine ⟨?_, ?_, ?_, ?_, htrail.countP_entry_le⟩
  · exact fun v hv => ⟨(htrail.sound v hv).bounded, (htrail.between v hv).2⟩
  · exact htrail.ordered.imp Visit.Before.forward
  · exact fun v hv hentry entered he => ((htrail.sound v hv).enclosed entered he).2 hentry
  · exact htrail.ordered.imp fun hbefore hplace hwithin => hbefore.strict ⟨hplace, .inl hwithin⟩

/-- The visits of a reading, with the number of tokens that are to come. -/
example : (Traced.text (Reader.start "-(2,")).visits.map (fun v => (v.place, v.rest.length)) =
    [(.entry, 4), (.entry, 3), (.entry, 2), (.operators, 1), (.operators, 1), (.operators, 1),
      (.text, 1), (.text, 0)] := by
  decide +kernel

end EventSheet
