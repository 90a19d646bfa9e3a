import EventSheet.Proofs.Syntax.Concrete

/-!
# The layered grammar is unambiguous

The tokens of an expression have one derivation: `Concrete.In.eq_of_tokens`. Two trees that read
the same tokens need not stop at the same place, because an operation starts with the tokens of its
left operand; but then one of them stands at the left edge of the other. `Concrete.edged` is the
induction, and a layer that stops where both trees stop leaves no room between them.
-/

namespace EventSheet

/-- The tree stands at the left edge of another one: it is that tree or the left operand of the left
operand and so on. -/
inductive LeftEdge (c : Concrete) : Concrete → Prop
  | refl : LeftEdge c c
  | step {o : Operator} {t : Token} {a b : Concrete} :
      LeftEdge c a → LeftEdge c (.operation o t a b)

namespace LeftEdge

variable {c d : Concrete} {l : Layer} {rest rest' : List Token}

/-- A tree at the left edge of a larger one is the left operand of an operation at that edge. -/
theorem eq_or_exists_operation (h : LeftEdge c d) :
    c = d ∨ ∃ (o : Operator) (t : Token) (b : Concrete), LeftEdge (.operation o t c b) d := by
  induction h with
  | refl => exact .inl rfl
  | step _ ih =>
    rcases ih with rfl | ⟨o, t, b, hb⟩
    · exact .inr ⟨_, _, _, .refl⟩
    · exact .inr ⟨o, t, b, .step hb⟩

/-- A tree begins with the tokens of what stands at its left edge, which is in its layer. -/
theorem exists_tokens (h : LeftEdge c d) (hd : d.In l) :
    c.In l ∧ ∃ us, d.tokens = c.tokens ++ us ∧
      ∀ rest, d.Follows rest → c.Follows (us ++ rest) := by
  induction h generalizing l with
  | refl => exact ⟨hd, [], by simp, fun rest hf => hf⟩
  | @step o t a b h ih =>
    rw [Concrete.In] at hd
    obtain ⟨hl, ht, ha, -⟩ := hd
    obtain ⟨hc, us, htok, hfol⟩ := ih ha
    refine ⟨hc.mono (Layer.le_trans hl o.layer_le_leftLayer), us ++ t :: b.tokens, ?_, ?_⟩
    · simp [Concrete.tokens, htok]
    · intro rest _
      have hf := hfol (t :: (b.tokens ++ rest)) (ha.follows_operator ht _)
      simpa using hf

/-- Where the layer of a tree stops there is nothing right of its left edge. -/
theorem eq_of_stops (h : LeftEdge c d) (hd : d.In l)
    (ht : c.tokens ++ rest = d.tokens ++ rest') (hs : l.Stops rest) : c = d := by
  rcases h.eq_or_exists_operation with rfl | ⟨o, t, b, hedge⟩
  · rfl
  · obtain ⟨hin, us, htok, -⟩ := hedge.exists_tokens hd
    rw [Concrete.In] at hin
    obtain ⟨hle, hk, -, -⟩ := hin
    rw [htok] at ht
    simp only [Concrete.tokens, List.append_assoc, List.append_cancel_left_eq] at ht
    subst ht
    exact absurd hle (hs o hk)

theorem eq_of_stops_or (h : LeftEdge c d ∨ LeftEdge d c) (hc : c.In l) (hd : d.In l)
    (ht : c.tokens ++ rest = d.tokens ++ rest') (hs : l.Stops rest) (hs' : l.Stops rest') :
    c = d ∧ rest = rest' := by
  have heq : c = d := by
    rcases h with h | h
    · exact h.eq_of_stops hd ht hs
    · exact (h.eq_of_stops hc ht.symm hs').symm
  subst heq
  exact ⟨rfl, List.append_cancel_left ht⟩

end LeftEdge

/-! ### First tokens -/

/-- The kind of token a tree begins with. -/
def Concrete.lead : Concrete → TokenKind
  | .number _ => .number
  | .string _ => .string
  | .group _ _ _ => .openParen
  | .signed s _ _ => s.kind
  | .operation _ _ a _ => a.lead
  | .name _ | .call _ _ _ | .callWith _ _ _ _ _ | .access _ _ => .ident

theorem Head.Spelled.exists_tokens {head : Head} (h : head.Spelled) :
    ∃ t us, head.tokens = t :: us ∧ t.kind = .ident := by
  cases head with
  | free f => exact ⟨f, [], rfl, h⟩
  | onObject o d f => exact ⟨o, [d, f], rfl, h.1⟩
  | onBehavior o d b c f => exact ⟨o, [d, b, c, f], rfl, h.1⟩

theorem Concrete.In.exists_lead {c : Concrete} {l : Layer} (h : c.In l) :
    ∃ t us, c.tokens = t :: us ∧ t.kind = c.lead := by
  match c with
  | .number t | .string t | .name t =>
    rw [Concrete.In] at h
    exact ⟨t, [], rfl, h⟩
  | .group o e _ =>
    rw [Concrete.In] at h
    exact ⟨o, _, rfl, h.1⟩
  | .signed s t e =>
    rw [Concrete.In] at h
    exact ⟨t, _, rfl, h.2.1⟩
  | .operation o u a b =>
    rw [Concrete.In] at h
    obtain ⟨t, us, htok, hk⟩ := h.2.2.1.exists_lead
    exact ⟨t, us ++ u :: b.tokens, by simp [Concrete.tokens, htok], hk⟩
  | .call head o c =>
    rw [Concrete.In] at h
    obtain ⟨t, us, htok, hk⟩ := h.1.exists_tokens
    exact ⟨t, us ++ [o, c], by simp [Concrete.tokens, htok], hk⟩
  | .callWith head o first rest c =>
    rw [Concrete.In] at h
    obtain ⟨t, us, htok, hk⟩ := h.1.exists_tokens
    exact ⟨t, us ++ o :: (first.tokens ++ (rest.tokens ++ [c])), by simp [Concrete.tokens, htok],
      hk⟩
  | .access n as =>
    rw [Concrete.In] at h
    exact ⟨n, as.tokens, rfl, h.1⟩

theorem Concrete.In.tokens_ne_nil {c : Concrete} {l : Layer} (h : c.In l) : c.tokens ≠ [] := by
  obtain ⟨t, us, htok, -⟩ := h.exists_lead
  rw [htok]
  exact List.cons_ne_nil t us

theorem Concrete.isBoundary_lead (c : Concrete) : c.lead.isBoundary = false := by
  match c with
  | .number _ | .string _ | .name _ | .group _ _ _ | .call _ _ _ | .callWith _ _ _ _ _
  | .access _ _ => rfl
  | .signed s _ _ => cases s <;> rfl
  | .operation _ _ a _ => exact a.isBoundary_lead

/-- Two trees that read the same tokens begin with the same kind of token. -/
theorem Concrete.In.lead_eq {c d : Concrete} {l m : Layer} {rest rest' : List Token}
    (h : c.In l) (h' : d.In m) (ht : c.tokens ++ rest = d.tokens ++ rest') : c.lead = d.lead := by
  obtain ⟨t, us, htok, hk⟩ := h.exists_lead
  obtain ⟨u, vs, hutok, huk⟩ := h'.exists_lead
  rw [htok, hutok, List.cons_append, List.cons_append] at ht
  rw [← hk, ← huk, (List.cons.inj ht).1]

/-- No expression begins with the token that ends one. -/
theorem Concrete.In.ne_boundary {c : Concrete} {l : Layer} {t : Token} {us rest : List Token}
    (h : c.In l) (ht : t.kind.isBoundary = true) : t :: us ≠ c.tokens ++ rest := by
  obtain ⟨u, vs, htok, hk⟩ := h.exists_lead
  intro heq
  rw [htok, List.cons_append] at heq
  rw [(List.cons.inj heq).1, hk, c.isBoundary_lead] at ht
  exact absurd ht (by decide)

/-- The head of a call is read off its tokens. -/
theorem Head.Spelled.eq_of_tokens {g h : Head} (hg : g.Spelled) (hh : h.Spelled) {o p : Token}
    {us vs : List Token} (ho : o.kind = .openParen) (hp : p.kind = .openParen)
    (ht : g.tokens ++ o :: us = h.tokens ++ p :: vs) : g = h ∧ o = p ∧ us = vs := by
  cases g <;> cases h <;>
    simp_all only [Head.tokens, Head.Spelled, List.cons_append, List.nil_append, List.cons.injEq,
      reduceCtorEq, and_false, and_true]

/-- Whether a kind of token goes on with the head of a call after a name. -/
def TokenKind.continuesHead (k : TokenKind) : Prop := k = .openParen ∨ k = .colonColon

theorem Closed.ne_cons {t : Token} {us rest : List Token} (h : Closed rest)
    (ht : t.kind.isBoundary = false) (ht' : t.kind.isOperator = false) : rest ≠ t :: us := by
  rintro rfl
  rcases h with h | h
  · exact absurd (h.symm.trans ht) (by decide)
  · exact absurd (h.symm.trans ht') (by decide)

/-- Neither accessors nor what closes a variable continue the head of a call. -/
theorem Accessors.InSum.ne_continuesHead {as : Accessors} {t : Token} {us rest : List Token}
    (ha : as.InSum) (hr : Closed rest) (ht : t.kind.continuesHead) :
    as.tokens ++ rest ≠ t :: us := by
  intro heq
  cases as with
  | nil => rcases ht with ht | ht <;> exact hr.ne_cons (by rw [ht]; rfl) (by rw [ht]; rfl) heq
  | child d m as =>
    rw [Accessors.InSum] at ha
    have hk : t.kind = .dot := (List.cons.inj heq).1 ▸ ha.1
    rcases ht with ht | ht <;> exact absurd (ht.symm.trans hk) (by decide)
  | index b e c as =>
    rw [Accessors.InSum] at ha
    have hk : t.kind = .openBracket := (List.cons.inj heq).1 ▸ ha.1
    rcases ht with ht | ht <;> exact absurd (ht.symm.trans hk) (by decide)

/-- What a name and a dot begin is a variable or the head of a call, as the token after the second
name decides. -/
theorem Accessors.InSum.ne_dot_head {as : Accessors} {d f t : Token} {us rest : List Token}
    (ha : as.InSum) (hr : Closed rest) (hd : d.kind = .dot) (ht : t.kind.continuesHead) :
    as.tokens ++ rest ≠ d :: f :: t :: us := by
  intro heq
  cases as with
  | nil => exact hr.ne_cons (by rw [hd]; rfl) (by rw [hd]; rfl) heq
  | child c m as =>
    rw [Accessors.InSum] at ha
    exact ha.2.2.ne_continuesHead hr ht (List.cons.inj (List.cons.inj heq).2).2
  | index b e c as =>
    rw [Accessors.InSum] at ha
    have hk : d.kind = .openBracket := (List.cons.inj heq).1 ▸ ha.1
    exact absurd (hd.symm.trans hk) (by decide)

/-- No variable reads the tokens of a call. -/
theorem Accessors.InSum.ne_head {as : Accessors} {h : Head} {n o : Token} {us rest : List Token}
    (ha : as.InSum) (hr : Closed rest) (hh : h.Spelled) (ho : o.kind = .openParen) :
    n :: (as.tokens ++ rest) ≠ h.tokens ++ o :: us := by
  intro heq
  cases h with
  | free f => exact ha.ne_continuesHead hr (.inl ho) (List.cons.inj heq).2
  | onObject x d f => exact ha.ne_dot_head hr hh.2.1 (.inl ho) (List.cons.inj heq).2
  | onBehavior x d b s f =>
    exact ha.ne_dot_head hr hh.2.1 (.inr hh.2.2.2.1) (List.cons.inj heq).2

/-- After an argument comes a comma or the closing parenthesis. -/
theorem Arguments.InSum.exists_boundary {as : Arguments} {x : Token} (ha : as.InSum)
    (hx : x.kind = .closeParen) (us : List Token) :
    ∃ y vs, as.tokens ++ x :: us = y :: vs ∧ y.kind.isBoundary = true := by
  cases as with
  | nil => exact ⟨x, us, rfl, by rw [hx]; rfl⟩
  | cons m e as =>
    rw [Arguments.InSum] at ha
    exact ⟨m, _, rfl, by rw [ha.1]; rfl⟩

/-- What closes a variable begins no accessors. -/
theorem Closed.ne_accessors {as : Accessors} {rest us : List Token} (h : Closed rest)
    (ha : as.InSum) (hne : as ≠ .nil) : rest ≠ as.tokens ++ us := by
  cases as with
  | nil => exact absurd rfl hne
  | child d m as =>
    rw [Accessors.InSum] at ha
    exact h.ne_cons (by rw [ha.1]; rfl) (by rw [ha.1]; rfl)
  | index b e c as =>
    rw [Accessors.InSum] at ha
    exact h.ne_cons (by rw [ha.1]; rfl) (by rw [ha.1]; rfl)

/-! ### Forms of values -/

/-- Whether a tree stands for a value, which needs no operator. -/
def Concrete.isPrimary : Concrete → Bool
  | .signed _ _ _ | .operation _ _ _ _ => false
  | _ => true

theorem Concrete.lead_ne_sign {c : Concrete} (h : c.isPrimary = true) (s : Sign) :
    c.lead ≠ s.kind := by
  cases c with
  | operation | signed => simp [Concrete.isPrimary] at h
  | _ => cases s <;> simp [Concrete.lead, Sign.kind]

/-- The forms of values, numbered. -/
def Concrete.form : Concrete → Nat
  | .number _ => 0
  | .string _ => 1
  | .group _ _ _ => 2
  | .name _ => 3
  | .access _ _ => 4
  | .call _ _ _ => 5
  | .callWith _ _ _ _ _ => 6
  | .signed _ _ _ | .operation _ _ _ _ => 7

/-- Values of different forms never read the same tokens. -/
theorem Concrete.In.not_form_lt {c d : Concrete} {l m : Layer} {rest rest' : List Token}
    (hc : c.In l) (hd : d.In m) (hpc : c.isPrimary = true) (hpd : d.isPrimary = true)
    (ht : c.tokens ++ rest = d.tokens ++ rest') (hr : Closed rest) : ¬ c.form < d.form := by
  intro hlt
  have hlead := hc.lead_eq hd ht
  cases c <;> cases d <;> first
    | (simp [Concrete.isPrimary] at hpc; done)
    | (simp [Concrete.isPrimary] at hpd; done)
    | (simp [Concrete.form] at hlt; done)
    | (simp [Concrete.lead] at hlead; done)
    | skip
  case name.access n v as =>
    rw [Concrete.In] at hd
    simp only [Concrete.tokens, List.cons_append, List.nil_append, List.cons.injEq] at ht
    exact hr.ne_accessors hd.2.2 hd.2.1 ht.2
  case name.call n head o u =>
    rw [Concrete.In] at hd
    have hnil : Accessors.nil.InSum := trivial
    exact hnil.ne_head hr hd.1 hd.2.1 (by simpa [Concrete.tokens, Accessors.tokens] using ht)
  case name.callWith n head o first es u =>
    rw [Concrete.In] at hd
    have hnil : Accessors.nil.InSum := trivial
    exact hnil.ne_head hr hd.1 hd.2.1 (by simpa [Concrete.tokens, Accessors.tokens] using ht)
  case access.call n as head o u =>
    rw [Concrete.In] at hc
    rw [Concrete.In] at hd
    exact hc.2.2.ne_head hr hd.1 hd.2.1 (by simpa [Concrete.tokens] using ht)
  case access.callWith n as head o first es u =>
    rw [Concrete.In] at hc
    rw [Concrete.In] at hd
    exact hc.2.2.ne_head hr hd.1 hd.2.1 (by simpa [Concrete.tokens] using ht)
  case call.callWith head o u head' o' first es u' =>
    rw [Concrete.In] at hc
    rw [Concrete.In] at hd
    obtain ⟨hh, ho, hu⟩ := hc
    obtain ⟨hh', ho', hfirst, -, -⟩ := hd
    simp only [Concrete.tokens, List.append_assoc, List.cons_append, List.nil_append] at ht
    exact hfirst.ne_boundary (by rw [hu]; rfl) (hh.eq_of_tokens hh' ho ho' ht).2.2

theorem LeftEdge.operation_of_ne {c a b : Concrete} {o : Operator} {t : Token}
    (h : LeftEdge c a ∨ LeftEdge a c) (hc : ∀ p u d e, c ≠ .operation p u d e) :
    LeftEdge c (.operation o t a b) := by
  rcases h with h | h
  · exact .step h
  · cases h with
    | refl => exact .step .refl
    | step => exact absurd rfl (hc _ _ _ _)

/-! ### Uniqueness -/

/-- Whether of the tree and any other one that reads the same tokens one stands at the left edge of
the other. -/
def Concrete.Edged (c : Concrete) : Prop :=
  ∀ (d : Concrete) {l m : Layer} {rest rest' : List Token}, c.In l → d.In m →
    c.tokens ++ rest = d.tokens ++ rest' → c.Follows rest → d.Follows rest' →
    LeftEdge c d ∨ LeftEdge d c

namespace Concrete.Edged

/-- Expressions that read the same tokens up to the end of their level are equal. -/
theorem eq_of_closed {c d : Concrete} {x y : Token} {us vs : List Token} (h : c.Edged)
    (hc : c.In .sum) (hd : d.In .sum)
    (hx : x.kind.isBoundary = true) (hy : y.kind.isBoundary = true)
    (ht : c.tokens ++ x :: us = d.tokens ++ y :: vs) : c = d ∧ x :: us = y :: vs :=
  LeftEdge.eq_of_stops_or
    (h d hc hd ht (c.follows_boundary hx us) (d.follows_boundary hy vs)) hc hd ht
    (Layer.stops_boundary _ hx us) (Layer.stops_boundary _ hy vs)

theorem operation {o : Operator} {t : Token} {a b : Concrete} (ha : a.Edged) (hb : b.Edged) :
    (Concrete.operation o t a b).Edged := by
  intro d l m rest rest' hc hd ht hf hf'
  rw [Concrete.In] at hc
  obtain ⟨-, htk, hain, hbin⟩ := hc
  simp only [Concrete.tokens, List.append_assoc, List.cons_append] at ht
  rcases ha d hain hd ht (hain.follows_operator htk _) hf' with hedge | hedge
  · rcases hedge.eq_or_exists_operation with rfl | ⟨p, u, e, hpar⟩
    · exact .inr (.step .refl)
    · -- `d` goes on after `a` with an operator too, so that the right operands begin together
      obtain ⟨hp, us, htok, hfol⟩ := hpar.exists_tokens hd
      have hfp := hfol rest' hf'
      rw [Concrete.In] at hp
      obtain ⟨-, huk, -, he⟩ := hp
      rw [htok] at ht
      simp only [Concrete.tokens, List.append_assoc, List.cons_append,
        List.append_cancel_left_eq, List.cons.injEq] at ht
      obtain ⟨rfl, ht⟩ := ht
      obtain rfl := Operator.kind_injective (htk.symm.trans huk)
      obtain ⟨hfb, hsb⟩ := hf.right hbin
      obtain ⟨hfe, hse⟩ := hfp.right he
      obtain ⟨rfl, -⟩ := LeftEdge.eq_of_stops_or (hb e hbin he ht hfb hfe) hbin he ht hsb hse
      exact .inl hpar
  · exact .inr (.step hedge)

/-- A tree that is no operation is the leftmost operand of every tree that reads the same tokens. -/
theorem of_operand {c : Concrete} (hne : ∀ p u a b, c ≠ .operation p u a b)
    (h : ∀ {d : Concrete} {l m : Layer} {rest rest' : List Token}, c.In l → d.In m →
      (∃ s t e, d = .signed s t e) ∨ d.isPrimary = true →
      c.tokens ++ rest = d.tokens ++ rest' → c.Follows rest → d.Follows rest' → c = d) :
    c.Edged
  | .operation o t a b, l, m, rest, rest', hc, hd, ht, hf, hf' => by
    rw [Concrete.In] at hd
    obtain ⟨-, htk, ha, -⟩ := hd
    simp only [Concrete.tokens, List.append_assoc, List.cons_append] at ht
    have hedge := of_operand hne h a hc ha ht hf (ha.follows_operator htk _)
    exact .inl (LeftEdge.operation_of_ne hedge hne)
  | .signed s t e, l, m, rest, rest', hc, hd, ht, hf, hf' => by
    obtain rfl := h hc hd (.inl ⟨s, t, e, rfl⟩) ht hf hf'
    exact .inl .refl
  | .number _, l, m, rest, rest', hc, hd, ht, hf, hf'
  | .string _, l, m, rest, rest', hc, hd, ht, hf, hf'
  | .name _, l, m, rest, rest', hc, hd, ht, hf, hf'
  | .group _ _ _, l, m, rest, rest', hc, hd, ht, hf, hf'
  | .call _ _ _, l, m, rest, rest', hc, hd, ht, hf, hf'
  | .callWith _ _ _ _ _, l, m, rest, rest', hc, hd, ht, hf, hf'
  | .access _ _, l, m, rest, rest', hc, hd, ht, hf, hf' => by
    obtain rfl := h hc hd (.inr rfl) ht hf hf'
    exact .inl .refl

theorem signed {s : Sign} {t : Token} {e : Concrete} (he : e.Edged) :
    (Concrete.signed s t e).Edged := by
  refine of_operand (by simp) fun {d l m rest rest'} hc hd hshape ht hf hf' => ?_
  rcases hshape with ⟨s', t', e', rfl⟩ | hpd
  · rw [Concrete.In] at hc hd
    obtain ⟨-, hk, hin⟩ := hc
    obtain ⟨-, hk', hin'⟩ := hd
    simp only [Concrete.tokens, List.cons_append, List.cons.injEq] at ht
    obtain ⟨rfl, ht⟩ := ht
    obtain rfl := Sign.kind_injective (hk.symm.trans hk')
    obtain ⟨hfe, hse⟩ := hf.operand hin
    obtain ⟨hfe', hse'⟩ := hf'.operand hin'
    obtain ⟨rfl, -⟩ := LeftEdge.eq_of_stops_or (he e' hin hin' ht hfe hfe') hin hin' ht hse hse'
    rfl
  · exact absurd (hc.lead_eq hd ht).symm (Concrete.lead_ne_sign hpd s)

/-- A value is compared with values of its own form only. -/
theorem of_value {c : Concrete} (hpc : c.isPrimary = true)
    (h : ∀ {d : Concrete} {l m : Layer} {rest rest' : List Token}, c.In l → d.In m →
      d.form = c.form → c.tokens ++ rest = d.tokens ++ rest' → Closed rest → Closed rest' →
      c = d) : c.Edged := by
  refine of_operand ?_ fun {d l m rest rest'} hc hd hshape ht hf hf' => ?_
  · rintro p u a b rfl
    simp [Concrete.isPrimary] at hpc
  rcases hshape with ⟨s, t, e, rfl⟩ | hpd
  · exact absurd (hc.lead_eq hd ht) (Concrete.lead_ne_sign hpc s)
  · have hform : d.form = c.form := Nat.le_antisymm
      (Nat.le_of_not_lt (hc.not_form_lt hd hpc hpd ht hf.1))
      (Nat.le_of_not_lt (hd.not_form_lt hc hpd hpc ht.symm hf'.1))
    exact h hc hd hform ht hf.1 hf'.1

end Concrete.Edged

mutual

/-- Every tree is settled against all others that read the same tokens. -/
theorem Concrete.edged : ∀ c : Concrete, c.Edged
  | .number t | .string t | .name t => by
    refine .of_value rfl fun {d _ _ _ _} _ _ hform ht _ _ => ?_
    cases d <;> simp only [Concrete.form, reduceCtorEq, Nat.reduceEqDiff] at hform
    simp only [Concrete.tokens, List.cons_append, List.cons.injEq] at ht
    rw [ht.1]
  | .group o e u => by
    refine .of_value rfl fun {d _ _ _ _} hc hd hform ht _ _ => ?_
    cases d <;> simp only [Concrete.form, reduceCtorEq, Nat.reduceEqDiff] at hform
    rw [Concrete.In] at hc hd
    obtain ⟨-, he, hu⟩ := hc
    obtain ⟨-, he', hu'⟩ := hd
    simp only [Concrete.tokens, List.cons_append, List.append_assoc, List.nil_append,
      List.cons.injEq] at ht
    obtain ⟨rfl, ht⟩ := ht
    obtain ⟨rfl, htail⟩ :=
      e.edged.eq_of_closed he he' (by rw [hu]; rfl) (by rw [hu']; rfl) ht
    rw [(List.cons.inj htail).1]
  | .signed s t e => e.edged.signed
  | .operation o t a b => a.edged.operation b.edged
  | .call head o u => by
    refine .of_value rfl fun {d _ _ _ _} hc hd hform ht _ _ => ?_
    cases d <;> simp only [Concrete.form, reduceCtorEq, Nat.reduceEqDiff] at hform
    rw [Concrete.In] at hc hd
    simp only [Concrete.tokens, List.append_assoc, List.cons_append, List.nil_append] at ht
    obtain ⟨rfl, rfl, htail⟩ := hc.1.eq_of_tokens hd.1 hc.2.1 hd.2.1 ht
    rw [(List.cons.inj htail).1]
  | .callWith head o e es u => by
    refine .of_value rfl fun {d _ _ rest rest'} hc hd hform ht _ _ => ?_
    cases d <;> simp only [Concrete.form, reduceCtorEq, Nat.reduceEqDiff] at hform
    rw [Concrete.In] at hc hd
    obtain ⟨hh, ho, he, hes, hu⟩ := hc
    obtain ⟨hh', ho', he', hes', hu'⟩ := hd
    simp only [Concrete.tokens, List.append_assoc, List.cons_append, List.nil_append] at ht
    obtain ⟨rfl, rfl, htargs⟩ := hh.eq_of_tokens hh' ho ho' ht
    obtain ⟨x, us, hx, hxb⟩ := hes.exists_boundary hu rest
    obtain ⟨y, vs, hy, hyb⟩ := hes'.exists_boundary hu' rest'
    rw [hx, hy] at htargs
    obtain ⟨rfl, htail⟩ := e.edged.eq_of_closed he he' hxb hyb htargs
    rw [← hx, ← hy] at htail
    obtain ⟨rfl, hend⟩ := es.eq_of_tokens hes hes' hu hu' htail
    rw [(List.cons.inj hend).1]
  | .access n as => by
    refine .of_value rfl fun {d _ _ _ _} hc hd hform ht hr hr' => ?_
    cases d <;> simp only [Concrete.form, reduceCtorEq, Nat.reduceEqDiff] at hform
    rw [Concrete.In] at hc hd
    simp only [Concrete.tokens, List.cons_append, List.cons.injEq] at ht
    obtain ⟨rfl, ht⟩ := ht
    rw [(as.eq_of_tokens hc.2.2 hd.2.2 hr hr' ht).1]

/-- Arguments that read the same tokens up to a closing parenthesis are equal. -/
theorem Arguments.eq_of_tokens : ∀ (as : Arguments) {bs : Arguments} {x y : Token}
    {us vs : List Token}, as.InSum → bs.InSum → x.kind = .closeParen → y.kind = .closeParen →
      as.tokens ++ x :: us = bs.tokens ++ y :: vs → as = bs ∧ x :: us = y :: vs
  | .nil, .nil, _, _, _, _, _, _, _, _, ht => ⟨rfl, ht⟩
  | .nil, .cons m e bs, x, y, us, vs, _, hb, hx, _, ht => by
    rw [Arguments.InSum] at hb
    rw [(List.cons.inj ht).1, hb.1] at hx
    exact absurd hx (by decide)
  | .cons m e as, .nil, x, y, us, vs, ha, _, _, hy, ht => by
    rw [Arguments.InSum] at ha
    rw [← (List.cons.inj ht).1, ha.1] at hy
    exact absurd hy (by decide)
  | .cons m e as, .cons n f bs, x, y, us, vs, ha, hb, hx, hy, ht => by
    rw [Arguments.InSum] at ha hb
    obtain ⟨-, he, has⟩ := ha
    obtain ⟨-, hf, hbs⟩ := hb
    simp only [Arguments.tokens, List.cons_append, List.append_assoc, List.cons.injEq] at ht
    obtain ⟨rfl, ht⟩ := ht
    obtain ⟨x', us', hx', hxb⟩ := has.exists_boundary hx us
    obtain ⟨y', vs', hy', hyb⟩ := hbs.exists_boundary hy vs
    rw [hx', hy'] at ht
    obtain ⟨rfl, htail⟩ := e.edged.eq_of_closed he hf hxb hyb ht
    rw [← hx', ← hy'] at htail
    obtain ⟨rfl, hend⟩ := as.eq_of_tokens has hbs hx hy htail
    exact ⟨rfl, hend⟩

/-- Accessors that read the same tokens of a variable are equal. -/
theorem Accessors.eq_of_tokens : ∀ (as : Accessors) {bs : Accessors} {rest rest' : List Token},
    as.InSum → bs.InSum → Closed rest → Closed rest' →
      as.tokens ++ rest = bs.tokens ++ rest' → as = bs ∧ rest = rest'
  | .nil, .nil, _, _, _, _, _, _, ht => ⟨rfl, ht⟩
  | .nil, .child d n bs, _, _, _, hb, hr, _, ht => absurd ht (hr.ne_accessors hb nofun)
  | .nil, .index o e u bs, _, _, _, hb, hr, _, ht => absurd ht (hr.ne_accessors hb nofun)
  | .child d n as, .nil, _, _, ha, _, _, hr', ht => absurd ht.symm (hr'.ne_accessors ha nofun)
  | .index o e u as, .nil, _, _, ha, _, _, hr', ht => absurd ht.symm (hr'.ne_accessors ha nofun)
  | .child d n as, .index o e u bs, rest, rest', ha, hb, _, _, ht => by
    rw [Accessors.InSum] at ha
    rw [Accessors.InSum] at hb
    have hk := ha.1
    rw [(List.cons.inj ht).1, hb.1] at hk
    exact absurd hk (by decide)
  | .index o e u as, .child d n bs, rest, rest', ha, hb, _, _, ht => by
    rw [Accessors.InSum] at ha
    rw [Accessors.InSum] at hb
    have hk := ha.1
    rw [(List.cons.inj ht).1, hb.1] at hk
    exact absurd hk (by decide)
  | .child d n as, .child d' n' bs, rest, rest', ha, hb, hr, hr', ht => by
    rw [Accessors.InSum] at ha hb
    simp only [Accessors.tokens, List.cons_append, List.cons.injEq] at ht
    obtain ⟨rfl, rfl, ht⟩ := ht
    obtain ⟨rfl, htail⟩ := as.eq_of_tokens ha.2.2 hb.2.2 hr hr' ht
    exact ⟨rfl, htail⟩
  | .index o e u as, .index o' e' u' bs, rest, rest', ha, hb, hr, hr', ht => by
    rw [Accessors.InSum] at ha hb
    obtain ⟨-, he, hu, has⟩ := ha
    obtain ⟨-, he', hu', hbs⟩ := hb
    simp only [Accessors.tokens, List.cons_append, List.append_assoc, List.cons.injEq] at ht
    obtain ⟨rfl, ht⟩ := ht
    obtain ⟨rfl, htail⟩ :=
      e.edged.eq_of_closed he he' (by rw [hu]; rfl) (by rw [hu']; rfl) ht
    obtain ⟨rfl, hmore⟩ := List.cons.inj htail
    obtain ⟨rfl, hend⟩ := as.eq_of_tokens has hbs hr hr' hmore
    exact ⟨rfl, hend⟩

end

/-- The tokens of an expression have one derivation in the layered grammar. -/
theorem Concrete.In.eq_of_tokens {c d : Concrete} (hc : c.In .sum) (hd : d.In .sum)
    (ht : c.tokens = d.tokens) : c = d := by
  have ht' : c.tokens ++ [] = d.tokens ++ [] := by rw [ht]
  have hedge := c.edged d hc hd ht' ⟨trivial, trivial⟩ ⟨trivial, trivial⟩
  exact (LeftEdge.eq_of_stops_or hedge hc hd ht' trivial trivial).1

end EventSheet
