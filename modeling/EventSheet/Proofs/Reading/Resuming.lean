import EventSheet.Proofs.Reading.LevelSkip
import EventSheet.Proofs.Reading.Progress
import EventSheet.Proofs.Reading.Tolerance

/-!
# Going on after a skip

Where the nesting limit is reached, the rest of the level is skipped and reading goes on with what
is left. `skipping_exact` says how much is skipped, and that no loop goes on with a part of it. The
loop that skips stops at a boundary, where no loop over the operators goes on. What comes after it
in the reading of a text is behind the skip: `Visit.Resumes` says so of any two visits, and two
readings one after the other keep it unless the second one does something at the seam,
`Resumed.append`. At a seam there is the head of a loop over the operators and nothing else, since
another argument or accessor is only read when a token has been taken.
-/

namespace EventSheet

open StateTransition (eval Reaches)

/-! ### Visits after a skip -/

namespace Visit

/-- What is to come where the level ends in which the innermost expression around was entered. -/
def levelStop (v : Visit) : List Token := levelEnd (v.within.getLastD [])

/-- What may come after a visit to a skip: the same skip, or what is done behind it. Where the skip
ended, there is the head of a loop over the operators or of the skip to the end of the text; all
else is behind the token there. -/
def Resumes (v w : Visit) : Prop :=
  v.place = .level → w.place = .level ∧ w.within = v.within ∨
    w.rest <:+ v.levelStop ∧ (w.rest = v.levelStop → w.place = .operators ∨ w.place = .text)

variable {v w : Visit} {e : List Token}

theorem levelStop_inside (h : v.within ≠ []) : (v.inside e).levelStop = v.levelStop := by
  unfold levelStop inside
  cases hw : v.within with
  | nil => exact absurd hw h
  | cons e' es => rfl

theorem Resumes.inside (h : v.Resumes w) (hv : v.place = .level → v.within ≠ []) :
    (v.inside e).Resumes (w.inside e) := by
  intro hplace
  rw [levelStop_inside (hv hplace)]
  rcases h hplace with ⟨hsame, hwithin⟩ | hbehind
  · exact .inl ⟨hsame, congrArg (e :: ·) hwithin⟩
  · exact .inr hbehind

end Visit

/-- The visits of a reading that leaves the tokens: all skips in them are at their ends, and what
comes after a skip is behind it. -/
structure Resumed (vs : List Visit) (us : List Token) : Prop where
  stopped : ∀ v ∈ vs, v.place = .level → v.within ≠ [] ∧ us <:+ v.levelStop
  resumes : vs.Pairwise Visit.Resumes

namespace Resumed

variable {vs ws : List Visit} {us us' mid ts : List Token} {v : Visit}

theorem nil : Resumed [] us :=
  ⟨fun _ hv => absurd hv List.not_mem_nil, .nil⟩

theorem of_no_level (h : ∀ v ∈ vs, v.place ≠ .level) : Resumed vs us where
  stopped v hv hplace := absurd hplace (h v hv)
  resumes := List.pairwise_iff_forall_sublist.2 fun hsub hplace =>
    absurd hplace (h _ (hsub.subset (.head _)))

theorem stop (h : Resumed vs us) (hus : us' <:+ us) : Resumed vs us' where
  stopped v hv hplace := ⟨(h.stopped v hv hplace).1, hus.trans (h.stopped v hv hplace).2⟩
  resumes := h.resumes

/-- Two readings one after the other, where the second one makes no visit at the seam but to the
operators and to the end of the text. -/
theorem append (h : Resumed vs mid) (h' : Resumed ws us) (hus : us <:+ mid)
    (hseam : ∀ w ∈ ws, w.rest <:+ mid ∧ (w.rest = mid → w.place = .operators ∨ w.place = .text)) :
    Resumed (vs ++ ws) us where
  stopped := by
    intro v hv hplace
    rcases List.mem_append.1 hv with hv | hv
    · exact (h.stop hus).stopped v hv hplace
    · exact h'.stopped v hv hplace
  resumes := by
    refine List.pairwise_append.2 ⟨h.resumes, h'.resumes, ?_⟩
    intro v hv w hw hplace
    obtain ⟨hrest, hat⟩ := hseam w hw
    have hmid := (h.stopped v hv hplace).2
    refine .inr ⟨hrest.trans hmid, fun heq => hat ?_⟩
    exact hrest.eq_of_length_le (heq ▸ hmid.length_le)

/-- Two readings with a token taken between them. -/
theorem append_of_lt (h : Resumed vs mid) (h' : Resumed ws us') (hmid : us <:+ mid)
    (hlt : us.length < mid.length) (htrail : Trail us ws us') : Resumed (vs ++ ws) us' := by
  refine h.append h' (htrail.forward.trans hmid) ?_
  intro w hw
  have hrest := (htrail.between w hw).2
  refine ⟨hrest.trans hmid, fun heq => ?_⟩
  have hle := hrest.length_le
  rw [heq] at hle
  exact absurd hlt (Nat.not_lt.2 hle)

/-- A visit to something else before. -/
theorem cons (h : Resumed vs us) {place : Waypoint} (hplace : place ≠ .level) :
    Resumed (⟨place, [], ts⟩ :: vs) us where
  stopped := List.forall_mem_cons.2 ⟨fun h => absurd h hplace, h.stopped⟩
  resumes := List.pairwise_cons.2 ⟨fun _ _ h => absurd h hplace, h.resumes⟩

/-- The reading of an expression, from its entry on. -/
theorem enter (h : Resumed vs us) :
    Resumed (⟨.entry, [], ts⟩ :: vs.map (Visit.inside ts)) us := by
  refine cons ⟨?_, ?_⟩ (by decide)
  · refine List.forall_mem_map.2 fun v hv hplace => ⟨List.cons_ne_nil _ _, ?_⟩
    obtain ⟨hne, hstop⟩ := h.stopped v hv hplace
    rwa [Visit.levelStop_inside hne]
  · refine List.pairwise_map.2 (h.resumes.imp_of_mem ?_)
    intro v w hv _ hresumes
    exact hresumes.inside fun hplace => (h.stopped v hv hplace).1

end Resumed

namespace Traced

/-! ### Operands -/

section

variable {inner : Effectful.ExprReader Traced} {plain : ExprReader} (hi : Enters inner plain)
  (hr : ∀ s r, Resumed (inner s r).visits (plain s r).2.tokens)

include hi hr

theorem Assembled.resumed {ts us : List Token} {vs : List Visit}
    (h : Assembled inner plain ts vs us) : Resumed vs us := by
  induction h with
  | nil => exact .nil
  | between _ _ hus ih => exact ih.stop hus
  | expression s r => exact hr s r
  | append _ h' hmid hlt ih ih' => exact ih.append_of_lt ih' hmid hlt (h'.trail hi)
  | skip => exact .of_no_level fun v hv => by rw [(of_mem_skipping hv).1]; decide
  | argument r => exact (hr 0 r).cons (by decide)
  | accessor _ _ _ ih => exact ih.cons (by decide)
  | noAccessor => exact Resumed.nil.cons (by decide)

theorem operand_resumed (hl : plain.Leads) (r : Reader) :
    Resumed (Effectful.operand inner r).visits (EventSheet.operand plain r).2.tokens := by
  rcases operand_assembled hi.result hl r with hnone | ⟨-, h⟩
  · rw [hnone]
    exact .nil
  · exact h.resumed hi hr

end

/-! ### Expressions -/

/-- The skip to the end of a level is made within the expression that is entered where it begins. -/
theorem of_mem_enter_tooDeep {r : Reader} {v : Visit}
    (hv : v ∈ (Effectful.tooDeep r : Traced (Expr × Reader)).visits.map (Visit.inside r.tokens)) :
    v.place = .level ∧ v.within = [r.tokens] := by
  obtain ⟨w, hw, rfl⟩ := List.mem_map.1 hv
  rw [Effectful.tooDeep, visits_bind, visits_pure, List.append_nil] at hw
  obtain ⟨hplace, hwithin⟩ := of_mem_skipping hw
  exact ⟨hplace, congrArg (r.tokens :: ·) hwithin⟩

theorem enter_tooDeep_resumed (r : Reader) :
    Resumed (enter r (Effectful.tooDeep r)).visits (EventSheet.tooDeep r).2.tokens := by
  rw [visits_enter, tooDeep_tokens]
  refine .cons ⟨?_, ?_⟩ (by decide)
  · intro v hv _
    have hwithin := (of_mem_enter_tooDeep hv).2
    have hstop : v.levelStop = levelEnd r.tokens := by rw [Visit.levelStop, hwithin]; rfl
    rw [hstop, hwithin]
    exact ⟨List.cons_ne_nil _ _, List.suffix_refl _⟩
  · refine List.pairwise_of_forall_mem_list ?_
    intro v hv w hw _
    obtain ⟨hplace, hwithin⟩ := of_mem_enter_tooDeep hw
    exact .inl ⟨hplace, hwithin.trans (of_mem_enter_tooDeep hv).2.symm⟩

/-- At the seam before the loop over the operators stands only its first head. -/
theorem Loop.seam {r q : Reader} {ws : List Visit} (h : Loop r ws q) :
    ∀ w ∈ ws, w.rest <:+ r.tokens ∧
      (w.rest = r.tokens → w.place = .operators ∨ w.place = .text) := by
  intro w hw
  refine ⟨(h.trail.between w hw).2, fun heq => .inl ?_⟩
  rcases h.behind w hw with rfl | hlt
  · rfl
  · exact absurd heq (fun heq => Nat.lt_irrefl _ (heq ▸ hlt))

/-- An iteration of the loop over the operators, and the others after it. -/
theorem Loop.resumed {r p q : Reader} {vs ws : List Visit} (h : Resumed vs p.tokens)
    (h' : Resumed ws q.tokens) (hloop : Loop p ws q) :
    Resumed (⟨.operators, [], r.tokens⟩ :: (vs ++ ws)) q.tokens :=
  (h.append h' hloop.trail.forward hloop.seam).cons (by decide)

theorem Loop.leave_resumed (r : Reader) : Resumed [⟨.operators, [], r.tokens⟩] r.tokens :=
  Resumed.nil.cons (by decide)

mutual

theorem expression_resumed : ∀ (levels strength : Nat) (r : Reader),
    Resumed (expression levels strength r).visits
      (EventSheet.expression levels strength r).2.tokens
  | 0, _, r => enter_tooDeep_resumed r
  | levels + 1, strength, r => by
    have hi : Enters (fun s r => expression levels s r)
        (fun s r => EventSheet.expression levels s r) :=
      ⟨result_expression levels, expression_trail levels, fun _ _ _ => own_expression⟩
    have hresult : Traced.result _ = _ := yields.operand (result_expression levels) r
    have hoperand := operand_resumed hi (expression_resumed levels) (leads_expression levels) r
    have hloop := operations_loop levels strength
      (EventSheet.operand (fun s r => EventSheet.expression levels s r) r).1
      (EventSheet.operand (fun s r => EventSheet.expression levels s r) r).2
    rw [expression, visits_enter, visits_bind, hresult, expression_succ]
    exact (hoperand.append (operations_resumed levels strength _ _) hloop.trail.forward
      hloop.seam).enter

theorem operations_resumed : ∀ (levels strength : Nat) (left : Expr) (r : Reader),
    Resumed (operations levels strength left r).visits
      (EventSheet.operations levels strength left r).2.tokens
  | levels, strength, left, r => by
    rcases hb : r.kind.binding? with _ | b
    · rw [operations_of_none levels left hb]
      cases levels <;> simpa [operations, hb] using Loop.leave_resumed r
    by_cases hlt : b.left < strength
    · rw [operations_of_lt levels left hb hlt]
      cases levels <;> simpa [operations, hb, hlt] using Loop.leave_resumed r
    match levels with
    | 0 =>
      have hright : Traced.result _ = _ := yields.tooDeep r.advance
      rw [operations_zero left hb hlt]
      simpa [operations, hb, hlt, hright] using
        Loop.resumed (r := r) (enter_tooDeep_resumed r.advance) (Loop.leave_resumed _) (.leave _)
    | levels + 1 =>
      have hright := result_expression levels b.right r.advance
      rw [operations_succ levels left hb hlt]
      simpa [operations, hb, hlt, hright] using
        Loop.resumed (r := r) (expression_resumed levels b.right r.advance)
          (operations_resumed levels strength _ _) (operations_loop levels strength _ _)

end

/-- What comes after a skip in the reading of a text is behind the skip. -/
theorem text_resumes (r : Reader) : (text r).visits.Pairwise Visit.Resumes := by
  unfold text
  split
  · exact .nil
  · obtain ⟨hclose, hown⟩ := closeText_trail (EventSheet.expression nestingLimit 0 r).2
    have hnone : Resumed (closeText (EventSheet.expression nestingLimit 0 r).2).visits
        (EventSheet.closeText (EventSheet.expression nestingLimit 0 r).2).tokens := by
      refine .of_no_level fun v hv => ?_
      rw [(hown v hv).1]
      decide
    rw [visits_bind, result_expression]
    dsimp only
    rw [visits_bind, visits_pure, List.append_nil]
    refine ((expression_resumed nestingLimit 0 r).append hnone hclose.forward ?_).resumes
    exact fun w hw => ⟨(hclose.between w hw).2, fun _ => .inr (hown w hw).1⟩

end Traced

/-- Past the nesting limit exactly the rest of the level is skipped, from wherever reading stands. A
loop that counts the open brackets ends there, and its counter is never below zero. The tokens that
it takes are the most that stay in the level, so that it stops at the first closing bracket, comma
or end of the text that none of the brackets opened on the way encloses. No loop over the operators
goes on with what is left there. And in the reading of a text all that comes after a skip is behind
it: the head of a loop over the operators, or of the skip to the end of the text, where the skip has
stopped, and the heads of all other loops behind the token there. -/
theorem skipping_exact :
    (∀ r : Reader, ∃ s ∈ eval LevelSkip.step (LevelSkip.start r),
      tooDeep r = s.stand r.span.start ∧
      (∀ s', Reaches LevelSkip.step (LevelSkip.start r) s' → 0 ≤ s'.opened) ∧
      (tooDeep r).2.tokens = levelEnd r.tokens ∧
      (∃ run, r.tokens = run ++ levelEnd r.tokens ∧
        Token.StaysInLevel run ∧ Token.EndsLevel run (tooDeep r).2.kind ∧
        ∀ us, us <+: r.tokens → Token.StaysInLevel us → us <+: run) ∧
      (tooDeep r).2.kind ∈ [.closeParen, .closeBracket, .comma, .eof] ∧
      ∀ q : Reader, q.tokens = levelEnd r.tokens →
        ∀ levels strength left, operations levels strength left q = (left, q)) ∧
    (∀ source, (parse source).root = (Traced.text (Reader.start source)).result.1 ∧
      (parse source).diagnostics =
        (Traced.text (Reader.start source)).result.2.diagnostics.toList) ∧
    ∀ r : Reader, (Traced.text r).visits.Pairwise Visit.Resumes := by
  refine ⟨fun r => ?_, Traced.result_text, Traced.text_resumes⟩
  obtain ⟨s, hs, run, hsound, hends, hstand⟩ := tooDeep_eval r
  have htokens : s.reader.tokens = levelEnd r.tokens := by
    rw [← tooDeep_tokens, hstand]
    rfl
  have hkind : (tooDeep r).2.kind = s.reader.kind := by
    rw [hstand]
    rfl
  rw [hkind]
  refine ⟨s, hs, hstand, ?_, tooDeep_tokens r, ⟨run, ?_, hsound.inLevel, hends, ?_⟩, hends.mem, ?_⟩
  · intro s' hreaches
    obtain ⟨taken, hreached⟩ := LevelSkip.Sound.of_reaches hreaches
    exact hreached.nonneg
  · rw [← htokens, hsound.tokens]
  · intro us hus hstays
    rw [hsound.tokens] at hus
    refine hstays.prefix_of_endsLevel hus fun t rest htok => ?_
    rwa [← Reader.kind_eq htok]
  · intro q hq levels strength left
    exact operations_of_levelEnd levels strength left hq

/-- Brackets of both forms count alike, and the comma they enclose is skipped. -/
example : (tooDeep (Reader.start "[(1], 2), 3")).2.tokens.map (·.text) = [",", "3"] := by
  decide +kernel

end EventSheet
