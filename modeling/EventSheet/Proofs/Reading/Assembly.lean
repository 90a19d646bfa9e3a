import EventSheet.Proofs.Reading.Trail

/-!
# How the visits of an operand are put together

An operand is read with a reader for the expressions in it. The visits on the way are those of these
expressions, the heads of the loops over arguments and accessors, and a skip to its end, with a token
taken between any two parts. `Traced.Assembled` lists the ways in which they are put together, and
`Traced.operand_assembled` says that there are no others. So what goes along with all of these ways
holds of an operand as soon as it holds of the expressions in it.
-/

namespace EventSheet

namespace Traced

/-- The visits between two places of an operand, put together from those of the expressions in
it. -/
inductive Assembled (inner : Effectful.ExprReader Traced) (plain : ExprReader) :
    List Token → List Visit → List Token → Prop
  | nil {ts : List Token} : Assembled inner plain ts [] ts
  /-- Tokens are taken before and after. -/
  | between {ts ts' us us' : List Token} {vs : List Visit} : Assembled inner plain ts vs us →
      ts <:+ ts' → us' <:+ us → Assembled inner plain ts' vs us'
  | expression (s : Nat) (r : Reader) :
      Assembled inner plain r.tokens (inner s r).visits (plain s r).2.tokens
  /-- A token is taken between the parts. -/
  | append {ts mid us us' : List Token} {vs ws : List Visit} : Assembled inner plain ts vs mid →
      Assembled inner plain us ws us' → us <:+ mid → us.length < mid.length →
      Assembled inner plain ts (vs ++ ws) us'
  | skip {n : Nat} {r : Reader} : n ≤ r.tokens.length →
      Assembled inner plain r.tokens
        (Effectful.skipping .operand n r : Traced Reader).visits (r.skip n).tokens
  /-- An argument begins where its loop comes to its head. -/
  | argument (r : Reader) :
      Assembled inner plain r.tokens (⟨.arguments, [], r.tokens⟩ :: (inner 0 r).visits)
        (plain 0 r).2.tokens
  /-- An accessor takes a token. -/
  | accessor {ts us us' : List Token} {vs : List Visit} : Assembled inner plain us vs us' →
      us <:+ ts → us.length < ts.length →
      Assembled inner plain ts (⟨.accessors, [], ts⟩ :: vs) us'
  | noAccessor {ts : List Token} : Assembled inner plain ts [⟨.accessors, [], ts⟩] ts

section

variable {inner : Effectful.ExprReader Traced} {plain : ExprReader} {r q : Reader}

theorem Assembled.leads (h : r.Leads q) : Assembled inner plain r.tokens [] q.tokens :=
  .between .nil (List.suffix_refl _) h.tokens

theorem Assembled.stop {ts : List Token} {vs : List Visit}
    (h : Assembled inner plain ts vs r.tokens) (hq : r.Leads q) :
    Assembled inner plain ts vs q.tokens :=
  h.between (List.suffix_refl _) hq.tokens

theorem Assembled.start {us : List Token} {vs : List Visit}
    (h : Assembled inner plain q.tokens vs us) (hr : r.Leads q) :
    Assembled inner plain r.tokens vs us :=
  h.between hr.tokens (List.suffix_refl _)

theorem unexpected_assembled (r : Reader) :
    Assembled inner plain r.advance.tokens
      (Effectful.unexpected r : Traced (Expr × Reader)).visits
      (EventSheet.unexpected r).2.tokens := by
  have hlength : (operandRun r.advance.tokens).length ≤ r.advance.tokens.length :=
    (List.takeWhile_sublist _).length_le
  rw [Effectful.unexpected, visits_bind, visits_pure, List.append_nil]
  exact (Assembled.skip hlength).stop (Reader.fail_leads _ _ _ _)

theorem group_assembled (r : Reader) :
    Assembled inner plain r.advance.tokens (Effectful.group inner r).visits
      (EventSheet.group plain r).2.tokens := by
  have hvisits : (Effectful.group inner r).visits = (inner 0 r.advance).visits ++ [] := rfl
  rw [hvisits, List.append_nil, group_eq]
  refine (Assembled.expression 0 r.advance).stop ?_
  split
  · exact (Reader.advance_leads _).trans (afterGroup_leads _ _ _)
  · exact Reader.fail_leads _ _ _ _

variable (hi : ∀ s r, (inner s r).result = plain s r) (hl : plain.Leads)

include hi hl

/-- Every argument but the last takes a comma, so that the bound is not reached. -/
theorem arguments_assembled {n : Nat} {r : Reader} (hn : r.tokens.length < n) :
    Assembled inner plain r.tokens (Effectful.arguments inner n r).visits
      (EventSheet.arguments plain n r).2.tokens := by
  induction n generalizing r with
  | zero => exact absurd hn (Nat.not_lt_zero _)
  | succ n ih =>
    rw [arguments_succ, Effectful.arguments, visits_bind, visits_visit, visits_bind, hi 0 r,
      List.singleton_append]
    dsimp only
    split
    next hcomma =>
      have hlt := Reader.advance_lt hcomma (by decide)
      have hforward := (hl 0 r).tokens.length_le
      have hrest := ih (r := (plain 0 r).2.advance) (by omega)
      rw [visits_bind, visits_pure, List.append_nil]
      exact (Assembled.argument r).append hrest (Reader.advance_leads _).tokens hlt
    next =>
      rw [visits_pure, List.append_nil]
      exact .argument r

theorem callInside_assembled (r : Reader) :
    Assembled inner plain r.tokens (Effectful.callInside inner r).visits
      (EventSheet.callInside plain r).2.tokens := by
  unfold Effectful.callInside EventSheet.callInside
  split
  · exact .nil
  · exact arguments_assembled hi hl (Nat.lt_succ_self _)

theorem call_assembled (callee : Callee) (r : Reader) :
    Assembled inner plain r.advance.tokens (Effectful.call inner callee r).visits
      (EventSheet.call plain callee r).2.tokens := by
  have hvisits : (Effectful.call inner callee r).visits =
      (Effectful.callInside inner r.advance).visits ++ [] := rfl
  rw [hvisits, List.append_nil, call_eq]
  exact (callInside_assembled hi hl r.advance).stop (afterInside_leads _ _)

theorem behaviorCall_assembled (object : Name) (r : Reader) :
    Assembled inner plain r.tokens (Effectful.behaviorCall inner object r).visits
      (EventSheet.behaviorCall plain object r).2.tokens := by
  have hbehavior : r.Leads r.advance.advance.advance :=
    (r.advance_leads.trans (Reader.advance_leads _)).trans (Reader.advance_leads _)
  have hfunction := hbehavior.trans (Reader.advance_leads _)
  unfold Effectful.behaviorCall EventSheet.behaviorCall
  dsimp only
  split
  · split
    · exact (call_assembled hi hl _ _).start (hfunction.trans (Reader.advance_leads _))
    · exact .leads (hfunction.trans (Reader.report_leads _ _ _))
  · exact .leads (hbehavior.trans (Reader.report_leads _ _ _))

/-- Every accessor takes a token, so that the bound is not reached. -/
theorem accessors_assembled {n : Nat} {r : Reader} (hn : r.tokens.length < n) :
    Assembled inner plain r.tokens (Effectful.accessors inner n r).visits
      (EventSheet.accessors plain n r).2.tokens := by
  induction n generalizing r with
  | zero => exact absurd hn (Nat.not_lt_zero _)
  | succ n ih =>
    rw [Effectful.accessors, visits_bind, visits_visit, List.singleton_append]
    by_cases hdot : r.kind = .dot
    · have hlt := Reader.advance_lt hdot (by decide)
      rw [accessors_of_dot plain n hdot]
      simp only [hdot]
      split
      next hname =>
        have hnext := Reader.advance_lt hname (by decide)
        have hrest := ih (r := r.advance.advance) (by omega)
        rw [visits_bind, visits_pure, List.append_nil]
        exact (hrest.start (Reader.advance_leads _)).accessor r.advance_leads.tokens hlt
      next =>
        exact Assembled.noAccessor.stop (r.advance_leads.trans (Reader.report_leads _ _ _))
    by_cases hopen : r.kind = .openBracket
    · have hlt := Reader.advance_lt hopen (by decide)
      have hindex : Assembled inner plain _ _ _ := .expression 0 r.advance
      have hforward := (hl 0 r.advance).tokens.length_le
      rw [accessors_of_openBracket plain n hopen]
      simp only [hopen, visits_bind, hi]
      split
      next hclose =>
        have hnext := Reader.advance_lt hclose (by decide)
        have hrest := ih (r := (plain 0 r.advance).2.advance) (by omega)
        rw [visits_bind, visits_pure, List.append_nil]
        exact (hindex.append hrest (Reader.advance_leads _).tokens hnext).accessor
          r.advance_leads.tokens hlt
      next =>
        rw [visits_pure, List.append_nil]
        exact (hindex.stop (Reader.report_leads _ _ _)).accessor r.advance_leads.tokens hlt
    · rw [accessors_of_ne plain (n + 1) hdot hopen]
      cases hk : r.kind with
      | dot => exact absurd hk hdot
      | openBracket => exact absurd hk hopen
      | _ => exact .noAccessor

theorem access_assembled (name : Name) (r : Reader) :
    Assembled inner plain r.tokens (Effectful.access inner name r).visits
      (EventSheet.access plain name r).2.tokens := by
  have hvisits : (Effectful.access inner name r).visits =
      (Effectful.accessors inner (r.tokens.length + 1) r).visits ++ [] := rfl
  rw [hvisits, List.append_nil, access_eq]
  exact accessors_assembled hi hl (Nat.lt_succ_self _)

theorem named_assembled (r : Reader) :
    Assembled inner plain r.advance.tokens (Effectful.named inner r).visits
      (EventSheet.named plain r).2.tokens := by
  unfold Effectful.named EventSheet.named
  dsimp only
  have honObject := (r.advance.advance_leads.trans (Reader.advance_leads _)).trans
    (Reader.advance_leads _)
  cases r.advance.kindAt 0 with
  | openParen => exact (call_assembled hi hl _ _).start (Reader.advance_leads _)
  | openBracket => exact access_assembled hi hl _ _
  | dot =>
    cases r.advance.kindAt 1 with
    | ident =>
      cases r.advance.kindAt 2 with
      | openParen => exact (call_assembled hi hl _ _).start honObject
      | colonColon => exact behaviorCall_assembled hi hl _ _
      | _ => exact access_assembled hi hl _ _
    | _ => exact access_assembled hi hl _ _
  | _ => exact .nil

/-- The visits of an operand are behind its first token; where it is missing, there are none. -/
theorem operand_assembled (r : Reader) :
    (Effectful.operand inner r).visits = [] ∨
      r.kind ≠ .eof ∧ Assembled inner plain r.advance.tokens (Effectful.operand inner r).visits
        (EventSheet.operand plain r).2.tokens := by
  unfold Effectful.operand EventSheet.operand
  cases hsign : r.kind.sign? with
  | some sign =>
    have hvalue : Assembled inner plain _ _ _ := .expression signStrength r.advance
    dsimp only
    rw [visits_bind, visits_pure, List.append_nil]
    exact .inr ⟨Reader.kind_ne_eof_of_sign hsign, hvalue⟩
  | none =>
    dsimp only
    unfold Effectful.primary EventSheet.primary
    dsimp only
    cases hk : r.kind with
    | openParen => exact .inr ⟨by decide, group_assembled r⟩
    | ident => exact .inr ⟨by decide, named_assembled hi hl r⟩
    | plus | minus | star | slash | caret | dot | colonColon | openBracket | unknown =>
      exact .inr ⟨by decide, unexpected_assembled r⟩
    | _ => exact .inl rfl

end

end Traced

end EventSheet
