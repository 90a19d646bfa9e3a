import EventSheet.Proofs.Reading.Course
import EventSheet.Proofs.Syntax.Nodes

/-!
# What an operand is made of

An operand is a group, which leaves what it holds, or a value with its own node. The operand of a
sign, the arguments of a call and the indices of a variable are what the reader for one level
further down gave, and nothing else is below the node: `operand_made`.
-/

namespace EventSheet

/-- Whether a node is an operator with its operands. -/
def Expr.isOperation : Expr → Bool
  | .binary _ _ _ _ => true
  | _ => false

/-- The reader gave the expression on the way to the given place. -/
def ExprReader.Gives (inner : ExprReader) (q : Reader) (e : Expr) : Prop :=
  ∃ (strength : Nat) (p : Reader), e = (inner strength p).1 ∧ (inner strength p).2.Leads q

/-- All that is below the node is what the reader gave, and the node is no operation. -/
structure Expr.MadeBy (inner : ExprReader) (q : Reader) (e : Expr) : Prop where
  given : ∀ c ∈ e.children, inner.Gives q c
  value : e.isOperation = false

section Parts

variable {inner : ExprReader} {q q' : Reader} {e : Expr}

theorem ExprReader.gives (inner : ExprReader) (strength : Nat) (p : Reader) :
    inner.Gives (inner strength p).2 (inner strength p).1 :=
  ⟨strength, p, rfl, .refl _⟩

theorem ExprReader.Gives.leads (h : inner.Gives q e) (hq : q.Leads q') : inner.Gives q' e := by
  obtain ⟨strength, p, rfl, hp⟩ := h
  exact ⟨strength, p, rfl, hp.trans hq⟩

theorem Expr.MadeBy.leads (h : e.MadeBy inner q) (hq : q.Leads q') : e.MadeBy inner q' :=
  ⟨fun c hc => (h.given c hc).leads hq, h.value⟩

/-- What has no parts needs no reader. -/
theorem Expr.MadeBy.leaf (hc : e.children = []) (hv : e.isOperation = false) :
    e.MadeBy inner q :=
  ⟨fun _ h => absurd (hc ▸ h) List.not_mem_nil, hv⟩

variable (hi : inner.Leads)

include hi

theorem arguments_gives (n : Nat) (r : Reader) :
    ∀ e ∈ (arguments inner n r).1, inner.Gives (arguments inner n r).2 e := by
  induction n generalizing r with
  | zero => exact nofun
  | succ n ih =>
    have hfirst := inner.gives 0 r
    rw [arguments_succ]
    split
    · intro e he
      rcases List.mem_cons.1 he with rfl | he
      · exact hfirst.leads ((Reader.advance_leads _).trans (arguments_leads hi n _))
      · exact ih _ e he
    · intro e he
      rw [List.mem_singleton.1 he]
      exact hfirst

theorem callInside_gives (r : Reader) :
    ∀ e ∈ (callInside inner r).1, inner.Gives (callInside inner r).2 e := by
  unfold callInside
  split
  · exact nofun
  · exact arguments_gives hi _ r

theorem call_made (callee : Callee) (r : Reader) :
    (call inner callee r).1.MadeBy inner (call inner callee r).2 := by
  rw [call_eq]
  exact ⟨fun e he => (callInside_gives hi r.advance e he).leads (afterInside_leads _ _), rfl⟩

theorem behaviorCall_made (object : Name) (r : Reader) :
    (behaviorCall inner object r).1.MadeBy inner (behaviorCall inner object r).2 := by
  unfold behaviorCall
  dsimp only
  split
  · split
    · exact call_made hi _ _
    · exact .leaf rfl rfl
  · exact .leaf rfl rfl

theorem accessors_gives (n : Nat) (r : Reader) :
    ∀ e ∈ indices (accessors inner n r).1, inner.Gives (accessors inner n r).2 e := by
  induction n generalizing r with
  | zero => exact nofun
  | succ n ih =>
    by_cases hdot : r.kind = .dot
    · rw [accessors_of_dot inner n hdot]
      split
      · exact ih r.advance.advance
      · exact nofun
    by_cases hbracket : r.kind = .openBracket
    · have hindex := inner.gives 0 r.advance
      rw [accessors_of_openBracket inner n hbracket]
      split
      · intro e he
        rcases List.mem_cons.1 he with rfl | he
        · exact hindex.leads ((Reader.advance_leads _).trans (accessors_leads hi n _))
        · exact ih _ e he
      · intro e he
        rw [List.mem_singleton.1 he]
        exact hindex.leads (Reader.report_leads _ _ _)
    · rw [accessors_of_ne inner (n + 1) hdot hbracket]
      exact nofun

theorem access_made (name : Name) (r : Reader) :
    (access inner name r).1.MadeBy inner (access inner name r).2 := by
  rw [access_eq]
  exact ⟨accessors_gives hi _ r, rfl⟩

theorem named_made (r : Reader) : (named inner r).1.MadeBy inner (named inner r).2 := by
  unfold named
  dsimp only
  split
  · exact call_made hi _ _
  · exact call_made hi _ _
  · exact behaviorCall_made hi _ _
  · exact access_made hi _ _
  · exact access_made hi _ _
  · exact .leaf rfl rfl

omit hi in
theorem group_made (r : Reader) :
    (∃ c s, (group inner r).1 = c.withSpan s ∧ inner.Gives (group inner r).2 c) ∨
      (group inner r).1.MadeBy inner (group inner r).2 := by
  rw [group_eq]
  split
  · exact .inl ⟨_, _, rfl, (inner.gives 0 r.advance).leads
      ((Reader.advance_leads _).trans (afterGroup_leads _ _ _))⟩
  · exact .inr (.leaf rfl rfl)

theorem primary_made (r : Reader) :
    (∃ c s, (primary inner r).1 = c.withSpan s ∧ inner.Gives (primary inner r).2 c) ∨
      (primary inner r).1.MadeBy inner (primary inner r).2 := by
  unfold primary
  dsimp only
  split
  · exact .inr (.leaf rfl rfl)
  · exact .inr (.leaf rfl rfl)
  · exact .inr (.leaf rfl rfl)
  · exact group_made r
  · exact .inr (named_made hi r)
  · exact .inr (.leaf rfl rfl)
  · exact .inr (.leaf rfl rfl)
  · exact .inr (.leaf rfl rfl)
  · exact .inr (.leaf rfl rfl)
  · exact .inr (.leaf rfl rfl)

/-- An operand is what a group holds, or a node with nothing below it but what the reader gave. -/
theorem operand_made (r : Reader) :
    (∃ c s, (operand inner r).1 = c.withSpan s ∧ inner.Gives (operand inner r).2 c) ∨
      (operand inner r).1.MadeBy inner (operand inner r).2 := by
  cases hs : r.kind.sign? with
  | some s =>
    rw [operand_of_sign inner hs]
    refine .inr ⟨fun c hc => ?_, rfl⟩
    rw [List.mem_singleton.1 hc]
    exact inner.gives signStrength r.advance
  | none =>
    simp only [operand, hs]
    exact primary_made hi r

end Parts

end EventSheet
