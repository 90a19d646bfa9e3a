import EventSheet.Proofs.Syntax.Concrete
import EventSheet.Proofs.Syntax.Grammar

/-!
# Layers change no language

The layered grammar of `Concrete.In` derives the same sequences of tokens as the flat one:
`derives_iff_exists_concrete`. From a tree to the flat grammar, an operation is the operations of
its left operand followed by those of its right one. The other way an operand is added to a tree at
the end of its right edge, as deep as the operator asks for.
-/

namespace EventSheet

/-- The kinds of some tokens. -/
abbrev kinds (ts : List Token) : List TokenKind := ts.map (·.kind)

/-! ### From trees to the flat grammar -/

theorem Derives.operations_append {ks ls : List TokenKind} (h : Derives .operations ks)
    (h' : Derives .operations ls) : Derives .operations (ks ++ ls) := by
  generalize hp : Phrase.operations = p at h
  induction h with
  | noOperation => exact h'
  | operation hk ho _ _ ih =>
    rw [List.cons_append, List.append_assoc]
    exact .operation hk ho (ih rfl)
  | _ => exact absurd hp (by simp)

theorem Derives.operation_append {k : TokenKind} {ks ls : List TokenKind}
    (hk : k.isOperator = true) (h : Derives .expression ks) (h' : Derives .expression ls) :
    Derives .expression (ks ++ k :: ls) := by
  cases h with
  | expression ho hs =>
    cases h' with
    | expression ho' hs' =>
      rw [List.append_assoc]
      exact .expression ho (hs.operations_append (.operation hk ho' hs'))

theorem Derives.signed_expression {k : TokenKind} {ks : List TokenKind}
    (hk : k = .plus ∨ k = .minus) (h : Derives .expression ks) : Derives .expression (k :: ks) := by
  cases h with
  | expression ho hs => exact .expression (.signed hk ho) hs

theorem Derives.of_primary {ks : List TokenKind} (h : Derives .primary ks) :
    Derives .expression ks := by
  have he := Derives.expression (.unsigned h) .noOperation
  rwa [List.append_nil] at he

/-- A head followed by arguments in parentheses is a call. -/
theorem Head.Spelled.derives_call {head : Head} (h : head.Spelled) {ks : List TokenKind}
    (ha : Derives .arguments ks) :
    Derives .primary (kinds head.tokens ++ .openParen :: (ks ++ [.closeParen])) := by
  cases head with
  | free f =>
    simp only [Head.Spelled] at h
    simpa [kinds, Head.tokens, h] using ha.freeCall
  | onObject o d f =>
    obtain ⟨ho, hd, hf⟩ := h
    simpa [kinds, Head.tokens, ho, hd, hf] using ha.objectCall
  | onBehavior o d b c f =>
    obtain ⟨ho, hd, hb, hc, hf⟩ := h
    simpa [kinds, Head.tokens, ho, hd, hb, hc, hf] using ha.behaviorCall

theorem Sign.kind_eq (s : Sign) : s.kind = .plus ∨ s.kind = .minus := by
  cases s
  · exact .inl rfl
  · exact .inr rfl

mutual

theorem Concrete.In.derives : ∀ {c : Concrete} {l : Layer}, c.In l →
    Derives .expression (kinds c.tokens)
  | .number t, _, h => by
    rw [Concrete.In] at h
    simpa [Concrete.tokens, kinds, h] using Derives.of_primary .number
  | .string t, _, h => by
    rw [Concrete.In] at h
    simpa [Concrete.tokens, kinds, h] using Derives.of_primary .string
  | .name t, _, h => by
    rw [Concrete.In] at h
    simpa [Concrete.tokens, kinds, h] using Derives.of_primary .name
  | .group o e c, _, h => by
    rw [Concrete.In] at h
    obtain ⟨ho, he, hc⟩ := h
    have hd := he.derives
    simpa [Concrete.tokens, kinds, ho, hc] using hd.group.of_primary
  | .signed s t e, _, h => by
    rw [Concrete.In] at h
    obtain ⟨-, ht, he⟩ := h
    have hd := he.derives
    simpa [Concrete.tokens, kinds, ht] using hd.signed_expression s.kind_eq
  | .operation o t a b, _, h => by
    rw [Concrete.In] at h
    obtain ⟨-, ht, ha, hb⟩ := h
    have hd := ha.derives.operation_append o.isOperator_kind hb.derives
    simpa [Concrete.tokens, kinds, ht] using hd
  | .call head o c, _, h => by
    rw [Concrete.In] at h
    obtain ⟨hh, ho, hc⟩ := h
    simpa [Concrete.tokens, kinds, ho, hc] using (hh.derives_call .noArgument).of_primary
  | .callWith head o e as c, _, h => by
    rw [Concrete.In] at h
    obtain ⟨hh, ho, he, has, hc⟩ := h
    have hd := hh.derives_call (.arguments he.derives has.derives)
    simpa [Concrete.tokens, kinds, ho, hc] using hd.of_primary
  | .access n as, _, h => by
    rw [Concrete.In] at h
    obtain ⟨hn, hne, has⟩ := h
    obtain ⟨ks, ls, hks, hk, hl⟩ := has.derives hne
    simpa [Concrete.tokens, kinds, hn, hks] using (Derives.access hk hl).of_primary

theorem Arguments.InSum.derives : ∀ {as : Arguments}, as.InSum →
    Derives .moreArguments (kinds as.tokens)
  | .nil, _ => .lastArgument
  | .cons comma e rest, h => by
    rw [Arguments.InSum] at h
    obtain ⟨hc, he, hr⟩ := h
    simpa [Arguments.tokens, kinds, hc] using Derives.nextArgument he.derives hr.derives

theorem Accessors.InSum.derives : ∀ {as : Accessors}, as.InSum → as ≠ .nil →
    ∃ ks ls, kinds as.tokens = ks ++ ls ∧ Derives .accessor ks ∧ Derives .accessors ls
  | .nil, _, hne => absurd rfl hne
  | .child d n rest, h, _ => by
    rw [Accessors.InSum] at h
    obtain ⟨hd, hn, hr⟩ := h
    exact ⟨_, kinds rest.tokens, by simp [Accessors.tokens, kinds, hd, hn], .child, hr.accessors⟩
  | .index o e c rest, h, _ => by
    rw [Accessors.InSum] at h
    obtain ⟨ho, he, hc, hr⟩ := h
    exact ⟨_, kinds rest.tokens, by simp [Accessors.tokens, kinds, ho, hc], .index he.derives,
      hr.accessors⟩

theorem Accessors.InSum.accessors : ∀ {as : Accessors}, as.InSum →
    Derives .accessors (kinds as.tokens)
  | .nil, _ => .noAccessor
  | .child d n rest, h => by
    obtain ⟨ks, ls, hks, hk, hl⟩ := h.derives nofun
    exact hks ▸ .accessor hk hl
  | .index o e c rest, h => by
    obtain ⟨ks, ls, hks, hk, hl⟩ := h.derives nofun
    exact hks ▸ .accessor hk hl

end

/-! ### From the flat grammar to trees -/

/-- An operator and its right operand can be added after any tree. They go to the place on the right
edge of the tree where the operator finds its left operand. -/
theorem Concrete.exists_extended {o : Operator} {t : Token} {b : Concrete} (ht : t.kind = o.kind)
    (hb : b.In .unary) {c : Concrete} {l : Layer} (h : c.In l) (hl : l ≤ o.layer) :
    ∃ c' : Concrete, c'.In l ∧ c'.tokens = c.tokens ++ t :: b.tokens := by
  by_cases hleft : c.In o.leftLayer
  · refine ⟨.operation o t c b, ?_, rfl⟩
    rw [Concrete.In]
    exact ⟨hl, ht, hleft, hb.mono o.rightLayer_le_unary⟩
  match c, h with
  | .signed s u e, h =>
    rw [Concrete.In] at h
    obtain ⟨hu, hk, he⟩ := h
    have hn : ¬ o.leftLayer ≤ .unary := fun hle => hleft (by rw [Concrete.In]; exact ⟨hle, hk, he⟩)
    have hle : Layer.unary ≤ o.layer :=
      Decidable.not_not.1 (mt Operator.leftLayer_le_unary_iff.2 hn)
    obtain ⟨e', he', htok⟩ := exists_extended ht hb he hle
    refine ⟨.signed s u e', ?_, by simp [Concrete.tokens, htok]⟩
    rw [Concrete.In]
    exact ⟨hu, hk, he'⟩
  | .operation p u a e, h =>
    rw [Concrete.In] at h
    obtain ⟨hp, hk, ha, he⟩ := h
    have hn : ¬ o.leftLayer ≤ p.layer := fun hle =>
      hleft (by rw [Concrete.In]; exact ⟨hle, hk, ha, he⟩)
    have hle : p.rightLayer ≤ o.layer :=
      Decidable.not_not.1 (mt Operator.leftLayer_le_iff.2 hn)
    obtain ⟨e', he', htok⟩ := exists_extended ht hb he hle
    refine ⟨.operation p u a e', ?_, by simp [Concrete.tokens, htok]⟩
    rw [Concrete.In]
    exact ⟨hp, hk, ha, he'⟩
  | .number u, h | .string u, h | .name u, h | .group u e v, h | .call g u v, h
  | .callWith g u e as v, h | .access u as, h =>
    exact absurd (by simpa only [Concrete.In] using h) hleft

/-- What a phrase of the flat grammar builds out of its tokens. Operations are added to a tree on
their left, an accessor to accessors on its right. -/
def Phrase.Built : Phrase → List Token → Prop
  | expression, ts => ∃ c : Concrete, c.In .sum ∧ c.tokens = ts
  | operations, ts =>
    ∀ c : Concrete, c.In .sum → ∃ c' : Concrete, c'.In .sum ∧ c'.tokens = c.tokens ++ ts
  | operand, ts => ∃ c : Concrete, c.In .unary ∧ c.tokens = ts
  | primary, ts => ∃ c : Concrete, c.In .primary ∧ c.tokens = ts
  | accessor, ts =>
    ∀ as : Accessors, as.InSum →
      ∃ as' : Accessors, as' ≠ .nil ∧ as'.InSum ∧ as'.tokens = ts ++ as.tokens
  | accessors, ts => ∃ as : Accessors, as.InSum ∧ as.tokens = ts
  | arguments, ts =>
    ts = [] ∨ ∃ (first : Concrete) (rest : Arguments),
      first.In .sum ∧ rest.InSum ∧ first.tokens ++ rest.tokens = ts
  | moreArguments, ts => ∃ as : Arguments, as.InSum ∧ as.tokens = ts

theorem TokenKind.exists_operator {k : TokenKind} (h : k.isOperator = true) :
    ∃ o : Operator, k = o.kind := by
  cases k <;> first
    | exact absurd h (by decide)
    | exact ⟨.add, rfl⟩
    | exact ⟨.sub, rfl⟩
    | exact ⟨.mul, rfl⟩
    | exact ⟨.div, rfl⟩
    | exact ⟨.pow, rfl⟩

theorem TokenKind.exists_sign {k : TokenKind} (h : k = .plus ∨ k = .minus) :
    ∃ s : Sign, k = s.kind := by
  rcases h with rfl | rfl
  · exact ⟨.plus, rfl⟩
  · exact ⟨.minus, rfl⟩

/-- Tokens whose kinds stand between two brackets stand between tokens of these kinds. -/
theorem exists_enclosed {k l : TokenKind} {ks : List TokenKind} {ts : List Token}
    (h : kinds ts = k :: (ks ++ [l])) :
    ∃ o us c, ts = o :: (us ++ [c]) ∧ o.kind = k ∧ kinds us = ks ∧ c.kind = l := by
  obtain ⟨o, us, rfl, ho, hus⟩ := List.map_eq_cons_iff.1 h
  obtain ⟨us, vs, rfl, hu, hv⟩ := List.map_eq_append_iff.1 hus
  obtain ⟨c, rfl, hc⟩ := List.map_eq_singleton_iff.1 hv
  exact ⟨o, us, c, rfl, ho, hu, hc⟩

/-- Arguments between parentheses after a head make a call. -/
theorem Head.Spelled.built_call {head : Head} (h : head.Spelled) {ks : List TokenKind}
    {ts : List Token} (hts : kinds ts = .openParen :: (ks ++ [.closeParen]))
    (hb : ∀ us, kinds us = ks → Phrase.arguments.Built us) :
    Phrase.primary.Built (head.tokens ++ ts) := by
  obtain ⟨o, us, c, rfl, ho, hu, hc⟩ := exists_enclosed hts
  rcases hb us hu with rfl | ⟨first, rest, hf, hr, rfl⟩
  · exact ⟨.call head o c, by rw [Concrete.In]; exact ⟨h, ho, hc⟩, rfl⟩
  · refine ⟨.callWith head o first rest c, ?_, by simp [Concrete.tokens]⟩
    rw [Concrete.In]
    exact ⟨h, ho, hf, hr, hc⟩

theorem Derives.built {p : Phrase} {ks : List TokenKind} (h : Derives p ks) :
    ∀ ts : List Token, kinds ts = ks → p.Built ts := by
  induction h with
  | expression _ _ iho ihs =>
    intro ts hts
    obtain ⟨us, vs, rfl, hu, hv⟩ := List.map_eq_append_iff.1 hts
    obtain ⟨c, hc, rfl⟩ := iho us hu
    exact ihs vs hv c hc.sum
  | noOperation =>
    intro ts hts c hc
    obtain rfl := List.map_eq_nil_iff.1 hts
    exact ⟨c, hc, by simp⟩
  | operation hk _ _ iho ihs =>
    intro ts hts c hc
    obtain ⟨t, us, rfl, ht, hus⟩ := List.map_eq_cons_iff.1 hts
    obtain ⟨us, vs, rfl, hu, hv⟩ := List.map_eq_append_iff.1 hus
    obtain ⟨o, ho⟩ := TokenKind.exists_operator hk
    obtain ⟨b, hb, rfl⟩ := iho us hu
    obtain ⟨c', hc', htok⟩ := Concrete.exists_extended (ht.trans ho) hb hc (Layer.sum_le _)
    obtain ⟨c'', hc'', htok'⟩ := ihs vs hv c' hc'
    exact ⟨c'', hc'', by simp [htok', htok]⟩
  | signed hk _ ih =>
    intro ts hts
    obtain ⟨t, us, rfl, ht, hu⟩ := List.map_eq_cons_iff.1 hts
    obtain ⟨s, hs⟩ := TokenKind.exists_sign hk
    obtain ⟨c, hc, rfl⟩ := ih us hu
    refine ⟨.signed s t c, ?_, rfl⟩
    rw [Concrete.In]
    exact ⟨Layer.le_refl _, ht.trans hs, hc⟩
  | unsigned _ ih =>
    intro ts hts
    obtain ⟨c, hc, htok⟩ := ih ts hts
    exact ⟨c, hc.mono (Layer.le_primary _), htok⟩
  | number =>
    intro ts hts
    obtain ⟨t, rfl, ht⟩ := List.map_eq_singleton_iff.1 hts
    exact ⟨.number t, by rw [Concrete.In]; exact ht, rfl⟩
  | string =>
    intro ts hts
    obtain ⟨t, rfl, ht⟩ := List.map_eq_singleton_iff.1 hts
    exact ⟨.string t, by rw [Concrete.In]; exact ht, rfl⟩
  | name =>
    intro ts hts
    obtain ⟨t, rfl, ht⟩ := List.map_eq_singleton_iff.1 hts
    exact ⟨.name t, by rw [Concrete.In]; exact ht, rfl⟩
  | group _ ih =>
    intro ts hts
    obtain ⟨o, us, c, rfl, ho, hu, hc⟩ := exists_enclosed hts
    obtain ⟨e, he, rfl⟩ := ih us hu
    exact ⟨.group o e c, by rw [Concrete.In]; exact ⟨ho, he, hc⟩, rfl⟩
  | freeCall _ ih =>
    intro ts hts
    obtain ⟨f, us, rfl, hf, hus⟩ := List.map_eq_cons_iff.1 hts
    have hhead : (Head.free f).Spelled := hf
    exact hhead.built_call hus ih
  | objectCall _ ih =>
    intro ts hts
    obtain ⟨x, us, rfl, hx, hus⟩ := List.map_eq_cons_iff.1 hts
    obtain ⟨d, us, rfl, hd, hus⟩ := List.map_eq_cons_iff.1 hus
    obtain ⟨f, us, rfl, hf, hus⟩ := List.map_eq_cons_iff.1 hus
    have hhead : (Head.onObject x d f).Spelled := ⟨hx, hd, hf⟩
    exact hhead.built_call hus ih
  | behaviorCall _ ih =>
    intro ts hts
    obtain ⟨x, us, rfl, hx, hus⟩ := List.map_eq_cons_iff.1 hts
    obtain ⟨d, us, rfl, hd, hus⟩ := List.map_eq_cons_iff.1 hus
    obtain ⟨b, us, rfl, hb, hus⟩ := List.map_eq_cons_iff.1 hus
    obtain ⟨s, us, rfl, hs, hus⟩ := List.map_eq_cons_iff.1 hus
    obtain ⟨f, us, rfl, hf, hus⟩ := List.map_eq_cons_iff.1 hus
    have hhead : (Head.onBehavior x d b s f).Spelled := ⟨hx, hd, hb, hs, hf⟩
    exact hhead.built_call hus ih
  | access _ _ iha ihs =>
    intro ts hts
    obtain ⟨n, us, rfl, hn, hus⟩ := List.map_eq_cons_iff.1 hts
    obtain ⟨us, vs, rfl, hu, hv⟩ := List.map_eq_append_iff.1 hus
    obtain ⟨as, has, rfl⟩ := ihs vs hv
    obtain ⟨as', hne, has', htok⟩ := iha us hu as has
    refine ⟨.access n as', ?_, by rw [Concrete.tokens, htok]⟩
    rw [Concrete.In]
    exact ⟨hn, hne, has'⟩
  | child =>
    intro ts hts as has
    obtain ⟨d, us, rfl, hd, hus⟩ := List.map_eq_cons_iff.1 hts
    obtain ⟨n, rfl, hn⟩ := List.map_eq_singleton_iff.1 hus
    exact ⟨.child d n as, nofun, by rw [Accessors.InSum]; exact ⟨hd, hn, has⟩, rfl⟩
  | index _ ih =>
    intro ts hts as has
    obtain ⟨o, us, c, rfl, ho, hu, hc⟩ := exists_enclosed hts
    obtain ⟨e, he, rfl⟩ := ih us hu
    refine ⟨.index o e c as, nofun, ?_, by simp [Accessors.tokens]⟩
    rw [Accessors.InSum]
    exact ⟨ho, he, hc, has⟩
  | noAccessor =>
    intro ts hts
    exact ⟨.nil, trivial, (List.map_eq_nil_iff.1 hts).symm⟩
  | accessor _ _ iha ihs =>
    intro ts hts
    obtain ⟨us, vs, rfl, hu, hv⟩ := List.map_eq_append_iff.1 hts
    obtain ⟨as, has, rfl⟩ := ihs vs hv
    obtain ⟨as', -, has', htok⟩ := iha us hu as has
    exact ⟨as', has', htok⟩
  | noArgument =>
    intro ts hts
    exact .inl (List.map_eq_nil_iff.1 hts)
  | arguments _ _ ihe ihs =>
    intro ts hts
    obtain ⟨us, vs, rfl, hu, hv⟩ := List.map_eq_append_iff.1 hts
    obtain ⟨e, he, rfl⟩ := ihe us hu
    obtain ⟨as, has, rfl⟩ := ihs vs hv
    exact .inr ⟨e, as, he, has, rfl⟩
  | lastArgument =>
    intro ts hts
    exact ⟨.nil, trivial, (List.map_eq_nil_iff.1 hts).symm⟩
  | nextArgument _ _ ihe ihs =>
    intro ts hts
    obtain ⟨t, us, rfl, ht, hus⟩ := List.map_eq_cons_iff.1 hts
    obtain ⟨us, vs, rfl, hu, hv⟩ := List.map_eq_append_iff.1 hus
    obtain ⟨e, he, rfl⟩ := ihe us hu
    obtain ⟨as, has, rfl⟩ := ihs vs hv
    exact ⟨.cons t e as, by rw [Arguments.InSum]; exact ⟨ht, he, has⟩, rfl⟩

/-- The flat and the layered grammar derive the same expressions. -/
theorem derives_iff_exists_concrete {ts : List Token} :
    Derives .expression (kinds ts) ↔ ∃ c : Concrete, c.In .sum ∧ c.tokens = ts := by
  constructor
  · intro h
    exact h.built ts rfl
  · rintro ⟨c, hc, rfl⟩
    exact hc.derives

end EventSheet
