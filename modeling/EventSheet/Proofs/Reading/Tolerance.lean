import EventSheet.Proofs.Reading.Skipping
import EventSheet.Proofs.Reading.Strength
import EventSheet.Proofs.Syntax.Levels
import EventSheet.Proofs.Syntax.Unambiguity

/-!
# Reading an expression

Where the tokens of a tree come next, reading takes them and reports no error but the nesting limit:
`Concrete.passes`. The limit is reported exactly where the tree takes more levels than are left. The
rest of the level is skipped then, and the readers around find the boundary they look for all the
same. A tree that starts with the operations of another one is read by the loop that reads that
other one, so that the induction is told about where the loop stands after the tree and with how
many levels, and not about what it returns.
-/

namespace EventSheet

/-- Whether nothing blocks the text so far but the nesting limit. -/
def Reader.Mild (r : Reader) : Prop :=
  ∀ d ∈ r.diagnostics.toList, d.isError = true → d.code = .nestingTooDeep

/-- Exactly the given tokens are left, and nothing was reported that blocks the text but the nesting
limit, which was reported unless what was read fits into the levels. -/
structure Taken (fits : Prop) (rest : List Token) (r r' : Reader) : Prop where
  tokens : r'.tokens = rest
  mild : r.Mild → r'.Mild
  shallow : r'.Shallow ↔ r.Shallow ∧ fits

section Taken

variable {fits fits' : Prop} {us rest : List Token} {r r' r'' : Reader} {t : Token}

theorem Taken.trans (h : Taken fits us r r') (h' : Taken fits' rest r' r'') :
    Taken (fits ∧ fits') rest r r'' :=
  ⟨h'.tokens, fun hr => h'.mild (h.mild hr), by rw [h'.shallow, h.shallow, and_assoc]⟩

theorem Taken.congr (h : Taken fits rest r r') (hfits : fits ↔ fits') : Taken fits' rest r r' :=
  ⟨h.tokens, h.mild, by rw [h.shallow, hfits]⟩

theorem Taken.refl (h : r.tokens = rest) : Taken True rest r r :=
  ⟨h, id, (and_iff_left trivial).symm⟩

theorem Taken.advance (h : r.tokens = t :: us) : Taken True us r r.advance :=
  ⟨Reader.advance_tokens_eq h, by simp [Reader.Mild], by simp [Reader.Shallow]⟩

/-- A token taken before. -/
theorem Taken.of_advance (htok : r.tokens = t :: us) (h : Taken fits rest r.advance r') :
    Taken fits rest r r' :=
  ((Taken.advance htok).trans h).congr (and_iff_right trivial)

/-- A token taken after. -/
theorem Taken.advanced (h : Taken fits (t :: rest) r r') : Taken fits rest r r'.advance :=
  (h.trans (Taken.advance h.tokens)).congr (and_iff_left trivial)

end Taken

/-- The given tokens are left, with the levels that the operators of the tree leave to the loop over
them; or the end of their level is, when the tree takes more levels than there are. -/
def Passed (c : Concrete) (levels m : Nat) (rest : List Token) (r r' : Reader) : Prop :=
  Taken (c.demand ≤ levels) rest r r' ∧ levels = m + c.chain + 1 ∨
    Taken False (levelEnd rest) r r' ∧ levels < c.demand

theorem Reader.Mild.report {r : Reader} {p : Problem} (s : Span) (h : r.Mild)
    (hp : p.severity = .error → p.code = .nestingTooDeep) : (r.report p s).Mild := by
  intro d hd herr
  simp only [Reader.report, Array.toList_push, List.mem_append, List.mem_singleton] at hd
  rcases hd with hd | rfl
  · exact h d hd herr
  · exact hp (by simpa [Diagnostic.isError, Diagnostic.severity] using herr)

theorem tooDeep_taken (r : Reader) : Taken False (levelEnd r.tokens) r (tooDeep r).2 := by
  refine ⟨tooDeep_tokens r, fun hr => ?_, ?_⟩
  · have hskip : (r.skip (levelRun 0 r.tokens).length).Mild := by simpa [Reader.Mild] using hr
    exact hskip.report _ fun _ => rfl
  · exact iff_of_false (not_shallow_tooDeep r) fun h => h.2

theorem afterGroup_taken (content : Expr) (span : Span) (r : Reader) :
    Taken True r.tokens r (afterGroup content span r) := by
  refine ⟨afterGroup_tokens content span r, fun hr => ?_, ?_⟩
  · unfold afterGroup
    split
    · exact hr.report span (by decide)
    · exact hr
  · rw [and_true, afterGroup_shallow]

/-- Where a level ends, no operator is left for a loop over them. -/
theorem operations_of_levelEnd (levels strength : Nat) (left : Expr) {r : Reader}
    {rest : List Token} (h : r.tokens = levelEnd rest) :
    operations levels strength left r = (left, r) := by
  apply operations_of_none
  rcases levelEnd_cases rest with hnil | ⟨t, us, hcons, ht⟩
  · rw [Reader.kind_eq_eof (h.trans hnil)]
    rfl
  · rw [Reader.kind_eq (h.trans hcons)]
    exact TokenKind.binding?_of_isBoundary ht

/-- Where the layer stops, no operator is left that binds strongly enough. -/
theorem operations_of_stops (levels : Nat) {strength : Nat} (hs : strength ≤ strongest)
    (left : Expr) {r : Reader} (h : (layerAt strength).Stops r.tokens) :
    operations levels strength left r = (left, r) := by
  rcases hb : r.kind.binding? with _ | b
  · exact operations_of_none levels left hb
  · obtain ⟨o, hk, rfl⟩ := TokenKind.eq_of_binding? hb
    obtain ⟨t, ts, htok, ht⟩ := Reader.exists_tokens_of_kind hk (by cases o <;> decide)
    rw [htok] at h
    exact operations_of_lt levels left hb ((o.left_lt_iff hs).2 (h o ht))

/-- Where the layer stops, no operator is left either way. -/
theorem Passed.operations_eq {c : Concrete} {levels m : Nat} {rest : List Token} {r r' : Reader}
    (h : Passed c levels m rest r r') (n : Nat) {strength : Nat} (hs : strength ≤ strongest)
    (hstop : (layerAt strength).Stops rest) (left : Expr) :
    operations n strength left r' = (left, r') := by
  rcases h with ⟨h, -⟩ | ⟨h, -⟩
  · exact operations_of_stops n hs left (h.tokens ▸ hstop)
  · exact operations_of_levelEnd n strength left h.tokens

/-- Where the end of the level comes next, it is the end that is reached either way. -/
theorem Passed.taken {c : Concrete} {levels m : Nat} {rest : List Token} {r r' : Reader}
    (h : Passed c levels m rest r r') (hrest : levelEnd rest = rest) :
    Taken (c.demand ≤ levels) rest r r' := by
  rcases h with ⟨h, -⟩ | ⟨h, hlt⟩
  · exact h
  · rw [hrest] at h
    exact h.congr (iff_of_false id (Nat.not_le_of_lt hlt))

/-! ### Operators -/

/-- Whether reading comes to the loop over the operators behind a tree, or to the end of the
level. -/
def Arrives (c : Concrete) (levels strength : Nat) (rest : List Token) (r : Reader) : Prop :=
  ∃ (m : Nat) (left : Expr) (r' : Reader),
    expression levels strength r = operations m strength left r' ∧ Passed c levels m rest r r'

/-- Whether reading passes over a tree wherever its tokens come next. -/
def Passes (c : Concrete) : Prop :=
  ∀ (levels : Nat) {strength : Nat} {r : Reader} {rest : List Token}, strength ≤ strongest →
    c.In (layerAt strength) → c.Follows rest → r.tokens = c.tokens ++ rest →
    Arrives c levels strength rest r

/-- At the nesting limit the rest of the level is skipped, the tree with it. -/
theorem arrives_zero {c : Concrete} {l : Layer} (hc : c.In l) (strength : Nat) {r : Reader}
    {rest : List Token} (htok : r.tokens = c.tokens ++ rest) : Arrives c 0 strength rest r := by
  have htaken := tooDeep_taken r
  rw [htok, hc.balanced.levelEnd_append] at htaken
  exact ⟨0, (tooDeep r).1, (tooDeep r).2,
    (operations_of_levelEnd 0 strength _ htaken.tokens).symm, .inr ⟨htaken, c.demand_pos⟩⟩

/-- A tree that closes its level is taken whole, at the nesting limit too. -/
theorem Passes.taken {c : Concrete} (hp : Passes c) (hc : c.In .sum) (levels : Nat) {r : Reader}
    {t : Token} {us : List Token} (ht : t.kind.isBoundary = true)
    (htok : r.tokens = c.tokens ++ t :: us) :
    Taken (c.demand ≤ levels) (t :: us) r (expression levels 0 r).2 := by
  obtain ⟨m, left, r', heq, hpassed⟩ :=
    hp levels (Nat.zero_le _) hc (c.follows_boundary ht us) htok
  rw [heq, hpassed.operations_eq m (Nat.zero_le _) (Layer.stops_boundary _ ht us)]
  exact hpassed.taken (levelEnd_boundary ht us)

/-- Values need no operator: it is enough that their own reader takes them. -/
theorem Passes.of_value {c : Concrete} (hchain : c.chain = 0)
    (h : ∀ (levels : Nat) {l : Layer} {r : Reader} {rest : List Token}, c.In l → Closed rest →
      r.tokens = c.tokens ++ rest →
      Taken (c.demand ≤ levels + 1) rest r (operand (fun s r => expression levels s r) r).2) :
    Passes c := by
  intro levels strength r rest _ hc hf htok
  cases levels with
  | zero => exact arrives_zero hc strength htok
  | succ levels =>
    exact ⟨levels, _, _, expression_succ levels strength r,
      .inl ⟨h levels hc hf.1 htok, by rw [hchain]⟩⟩

theorem Passes.signed {s : Sign} {t : Token} {e : Concrete} (he : Passes e) :
    Passes (.signed s t e) := by
  intro levels strength r rest _ hc hf htok
  cases levels with
  | zero => exact arrives_zero hc strength htok
  | succ levels =>
    rw [Concrete.In] at hc
    obtain ⟨-, ht, hin⟩ := hc
    obtain ⟨hfe, hse⟩ := hf.operand hin
    rw [Concrete.tokens, List.cons_append] at htok
    obtain ⟨m, left, r', heq, hpassed⟩ :=
      he levels signStrength_le_strongest hin hfe (Reader.advance_tokens_eq htok)
    have hsign : r.kind.sign? = some s := by rw [Reader.kind_eq htok, ht, s.sign?_kind]
    refine ⟨levels, _, _, expression_succ levels strength r, ?_⟩
    rw [operand_of_sign _ hsign, heq, hpassed.operations_eq m signStrength_le_strongest hse]
    rcases hpassed with ⟨h, -⟩ | ⟨h, hlt⟩
    · exact .inl ⟨(h.of_advance htok).congr Nat.succ_le_succ_iff.symm, rfl⟩
    · exact .inr ⟨h.of_advance htok, Nat.succ_lt_succ hlt⟩

theorem Passes.operation {o : Operator} {t : Token} {a b : Concrete} (ha : Passes a)
    (hb : Passes b) : Passes (.operation o t a b) := by
  intro levels strength r rest hs hc hf htok
  rw [Concrete.In] at hc
  obtain ⟨hle, ht, hain, hbin⟩ := hc
  obtain ⟨hfb, hsb⟩ := hf.right hbin
  rw [Concrete.tokens, List.append_assoc, List.cons_append] at htok
  obtain ⟨m, left, r', heq, hpassed⟩ := ha levels hs
    (hain.mono (Layer.le_trans hle o.layer_le_leftLayer)) (hain.follows_operator ht _) htok
  have hbpos := b.demand_pos
  rcases hpassed with ⟨h, hlevels⟩ | ⟨h, hlt⟩
  · -- the loop stands at the operator
    have hkind : r'.kind.binding? = some o.binding := by
      rw [Reader.kind_eq h.tokens, ht, o.binding?_kind]
    have hbind : ¬ o.binding.left < strength := by
      rw [o.left_lt_iff hs]
      exact not_not_intro hle
    have hadv := h.advanced
    unfold Arrives Passed
    simp only [heq, Concrete.demand, Concrete.chain]
    cases m with
    | zero =>
      have htaken := tooDeep_taken r'.advance
      rw [hadv.tokens, hbin.balanced.levelEnd_append] at htaken
      rw [operations_zero left hkind hbind]
      exact ⟨0, _, _, (operations_of_levelEnd 0 strength _ htaken.tokens).symm,
        .inr ⟨(hadv.trans htaken).congr (Iff.of_eq (and_false _)), by omega⟩⟩
    | succ m =>
      obtain ⟨k, right, r'', heq', hpassed'⟩ :=
        hb m o.right_le_strongest (o.layerAt_right ▸ hbin) hfb hadv.tokens
      rw [operations_succ m left hkind hbind, heq', hpassed'.operations_eq k o.right_le_strongest
        (o.layerAt_right ▸ hsb)]
      refine ⟨m, _, _, rfl, ?_⟩
      rcases hpassed' with ⟨h', -⟩ | ⟨h', hlt⟩
      · exact .inl ⟨(hadv.trans h').congr (by omega), by omega⟩
      · exact .inr ⟨(hadv.trans h').congr (Iff.of_eq (and_false _)), by omega⟩
  · -- the limit was reached in the left operand and all of the operation is skipped
    have hskip : levelEnd (t :: (b.tokens ++ rest)) = levelEnd rest :=
      (hbin.balanced.cons (ht ▸ o.isPlain_kind)).levelEnd_append rest
    rw [hskip] at h
    exact ⟨m, left, r', heq, .inr ⟨h, Nat.lt_of_lt_of_le hlt (Nat.le_max_left _ _)⟩⟩

/-! ### Groups, calls and variables -/

section Parts

variable (levels : Nat) {fits : Prop} {r : Reader} {rest : List Token}

theorem group_taken {o u : Token} {e : Concrete} (hp : Passes e) (he : e.In .sum)
    (hu : u.kind = .closeParen) (htok : r.tokens = o :: (e.tokens ++ u :: rest)) :
    Taken (e.demand ≤ levels) rest r (group (fun s r => expression levels s r) r).2 := by
  have hin :=
    (hp.taken he levels (by rw [hu]; rfl) (Reader.advance_tokens_eq htok)).of_advance htok
  rw [group_eq, if_pos ((Reader.kind_eq hin.tokens).trans hu)]
  have hafter := afterGroup_taken (expression levels 0 r.advance).1
    (r.span.merge (expression levels 0 r.advance).2.span) (expression levels 0 r.advance).2.advance
  rw [hin.advanced.tokens] at hafter
  exact (hin.advanced.trans hafter).congr (and_iff_left trivial)

theorem call_taken (callee : Callee) {o u : Token} {us : List Token} (hu : u.kind = .closeParen)
    (htok : r.tokens = o :: us)
    (hin : Taken fits (u :: rest) r.advance
      (callInside (fun s r => expression levels s r) r.advance).2) :
    Taken fits rest r (call (fun s r => expression levels s r) callee r).2 := by
  have hafter : afterInside r.span (callInside (fun s r => expression levels s r) r.advance).2 =
      (callInside (fun s r => expression levels s r) r.advance).2.advance :=
    if_pos ((Reader.kind_eq hin.tokens).trans hu)
  rw [call_eq, hafter]
  exact hin.advanced.of_advance htok

theorem callInside_taken_nil {u : Token} (hu : u.kind = .closeParen)
    (htok : r.tokens = u :: rest) :
    Taken True (u :: rest) r (callInside (fun s r => expression levels s r) r).2 := by
  rw [callInside, if_pos ((Reader.kind_eq htok).trans hu)]
  exact .refl htok

theorem callInside_taken {e : Concrete} {l : Layer} {us : List Token} (he : e.In l)
    (htok : r.tokens = e.tokens ++ us)
    (hin : Taken fits rest r
      (arguments (fun s r => expression levels s r) (r.tokens.length + 1) r).2) :
    Taken fits rest r (callInside (fun s r => expression levels s r) r).2 := by
  have hne : r.kind ≠ .closeParen := by
    intro hk
    obtain ⟨t, ts, hcons, ht⟩ := Reader.exists_tokens_of_kind hk (by decide)
    exact he.ne_boundary (by rw [ht]; rfl) (hcons.symm.trans htok)
  rw [callInside, if_neg hne]
  exact hin

/-- Where a variable ends neither a call nor an accessor begins. -/
theorem Closed.kind_ne (h : Closed r.tokens) {k : TokenKind} (hk : k.isBoundary = false)
    (hk' : k.isOperator = false) (hne : k ≠ .eof) : r.kind ≠ k := by
  intro heq
  obtain ⟨t, ts, htok, ht⟩ := Reader.exists_tokens_of_kind heq hne
  exact h.ne_cons (ht ▸ hk) (ht ▸ hk') htok

theorem Head.Spelled.kind_eq {head : Head} (hh : head.Spelled) {us : List Token}
    (htok : r.tokens = head.tokens ++ us) : r.kind = .ident := by
  obtain ⟨t, ts, hcons, ht⟩ := hh.exists_tokens
  rw [hcons, List.cons_append] at htok
  exact (Reader.kind_eq htok).trans ht

/-- The head of a call is taken, with its opening parenthesis next. -/
theorem named_taken_call {head : Head} (hh : head.Spelled) {o : Token} {us : List Token}
    (ho : o.kind = .openParen) (htok : r.tokens = head.tokens ++ o :: us)
    (hcall : ∀ (callee : Callee) (r' : Reader), r'.tokens = o :: us →
      Taken fits rest r' (call (fun s r => expression levels s r) callee r').2) :
    Taken fits rest r (named (fun s r => expression levels s r) r).2 := by
  cases head with
  | free f =>
    have hadv : r.advance.tokens = _ := Reader.advance_tokens_eq htok
    have h0 : r.advance.kindAt 0 = .openParen := (Reader.kind_eq hadv).trans ho
    simp only [named, h0]
    exact (hcall _ _ hadv).of_advance htok
  | onObject x d f =>
    obtain ⟨-, hd, hf⟩ := hh
    have hadv : r.advance.tokens = _ := Reader.advance_tokens_eq htok
    have hadv' := Reader.advance_tokens_eq hadv
    have hadv'' := Reader.advance_tokens_eq hadv'
    have h0 : r.advance.kindAt 0 = .dot := (Reader.kind_eq hadv).trans hd
    have h1 : r.advance.kindAt 1 = .ident := by
      rw [Reader.kindAt_succ]
      exact (Reader.kind_eq hadv').trans hf
    have h2 : r.advance.kindAt 2 = .openParen := by
      rw [Reader.kindAt_succ, Reader.kindAt_succ]
      exact (Reader.kind_eq hadv'').trans ho
    simp only [named, h0, h1, h2]
    exact (((hcall _ _ hadv'').of_advance hadv').of_advance hadv).of_advance htok
  | onBehavior x d b s f =>
    obtain ⟨-, hd, hb, hs, hf⟩ := hh
    have hadv : r.advance.tokens = _ := Reader.advance_tokens_eq htok
    have hadv' := Reader.advance_tokens_eq hadv
    have hadv'' := Reader.advance_tokens_eq hadv'
    have hadv3 := Reader.advance_tokens_eq hadv''
    have hadv4 := Reader.advance_tokens_eq hadv3
    have h0 : r.advance.kindAt 0 = .dot := (Reader.kind_eq hadv).trans hd
    have h1 : r.advance.kindAt 1 = .ident := by
      rw [Reader.kindAt_succ]
      exact (Reader.kind_eq hadv').trans hb
    have h2 : r.advance.kindAt 2 = .colonColon := by
      rw [Reader.kindAt_succ, Reader.kindAt_succ]
      exact (Reader.kind_eq hadv'').trans hs
    simp only [named, h0, h1, h2, behaviorCall, (Reader.kind_eq hadv3).trans hf,
      (Reader.kind_eq hadv4).trans ho, if_true]
    refine Taken.of_advance htok (.of_advance hadv (.of_advance hadv' ?_))
    exact .of_advance hadv'' (.of_advance hadv3 (hcall _ _ hadv4))

/-- A name stands alone where no call and no accessor begins. -/
theorem named_taken_name {n : Token} (hr : Closed rest) (htok : r.tokens = n :: rest) :
    Taken True rest r (named (fun s r => expression levels s r) r).2 := by
  have hadv := Taken.advance htok
  have hclosed : Closed r.advance.tokens := hadv.tokens ▸ hr
  unfold named
  dsimp only
  split
  next h => exact absurd h (hclosed.kind_ne rfl rfl (by decide))
  next h _ _ => exact absurd h (hclosed.kind_ne rfl rfl (by decide))
  next h _ _ => exact absurd h (hclosed.kind_ne rfl rfl (by decide))
  next h _ _ => exact absurd h (hclosed.kind_ne rfl rfl (by decide))
  next h => exact absurd h (hclosed.kind_ne rfl rfl (by decide))
  next => exact hadv

theorem Accessors.InSum.kind_eq {as : Accessors} (has : as.InSum) (hne : as ≠ .nil)
    (htok : r.tokens = as.tokens ++ rest) : r.kind = .dot ∨ r.kind = .openBracket := by
  cases as with
  | nil => exact absurd rfl hne
  | child d n as =>
    rw [Accessors.InSum] at has
    exact .inl ((Reader.kind_eq htok).trans has.1)
  | index o e u as =>
    rw [Accessors.InSum] at has
    exact .inr ((Reader.kind_eq htok).trans has.1)

/-- A name with accessors begins no call. -/
theorem named_taken_access {n : Token} {as : Accessors} (has : as.InSum) (hne : as ≠ .nil)
    (hr : Closed rest) (htok : r.tokens = n :: (as.tokens ++ rest))
    (hin : Taken fits rest r.advance (accessors (fun s r => expression levels s r)
      (r.advance.tokens.length + 1) r.advance).2) :
    Taken fits rest r (named (fun s r => expression levels s r) r).2 := by
  have hadv := Reader.advance_tokens_eq htok
  have hcall : ∀ k, r.advance.kindAt 0 = .dot → r.advance.kindAt 1 = .ident →
      r.advance.kindAt 2 = k → ¬ k.continuesHead := by
    intro k hdot hname hk hcont
    rw [Reader.kindAt_succ] at hname hk
    rw [Reader.kindAt_succ] at hk
    obtain ⟨d, us, hdtok, hd⟩ := Reader.exists_tokens_of_kind hdot (by decide)
    obtain ⟨f, vs, hftok, -⟩ := Reader.exists_tokens_of_kind hname (by decide)
    obtain ⟨t, ws, htok', ht⟩ := Reader.exists_tokens_of_kind hk
      (by rcases hcont with rfl | rfl <;> decide)
    rw [Reader.advance_tokens_eq hftok] at htok'
    rw [Reader.advance_tokens_eq hdtok] at hftok
    rw [hftok, htok'] at hdtok
    exact has.ne_dot_head hr hd (ht ▸ hcont) (hadv.symm.trans hdtok)
  unfold named
  dsimp only
  split
  next hk =>
    obtain ⟨t, us, htok', ht⟩ := Reader.exists_tokens_of_kind hk (by decide)
    exact absurd (hadv.symm.trans htok') (has.ne_continuesHead hr (.inl ht))
  next hdot hname hk => exact absurd (.inl rfl) (hcall _ hdot hname hk)
  next hdot hname hk => exact absurd (.inr rfl) (hcall _ hdot hname hk)
  next => exact hin.of_advance htok
  next => exact hin.of_advance htok
  next hdot hbracket _ _ => exact absurd (has.kind_eq hne hadv) (not_or.2 ⟨hdot, hbracket⟩)

end Parts

/-! ### Trees of all forms -/

mutual

/-- Reading passes over every tree of the grammar. -/
theorem Concrete.passes : ∀ c : Concrete, Passes c
  | .number t => by
    refine .of_value rfl fun levels l r rest hc _ htok => ?_
    rw [Concrete.In] at hc
    rw [operand_of_number _ ((Reader.kind_eq htok).trans hc)]
    exact (Taken.advance htok).congr (iff_of_true trivial (Nat.succ_pos levels))
  | .string t => by
    refine .of_value rfl fun levels l r rest hc _ htok => ?_
    rw [Concrete.In] at hc
    rw [operand_of_string _ ((Reader.kind_eq htok).trans hc)]
    exact (Taken.advance htok).congr (iff_of_true trivial (Nat.succ_pos levels))
  | .name t => by
    refine .of_value rfl fun levels l r rest hc hr htok => ?_
    rw [Concrete.In] at hc
    rw [operand_of_ident _ ((Reader.kind_eq htok).trans hc)]
    exact (named_taken_name levels hr htok).congr (iff_of_true trivial (Nat.succ_pos levels))
  | .group o e u => by
    refine .of_value rfl fun levels l r rest hc _ htok => ?_
    rw [Concrete.In] at hc
    rw [operand_of_openParen _ ((Reader.kind_eq htok).trans hc.1)]
    rw [Concrete.tokens, List.cons_append, List.append_assoc] at htok
    exact (group_taken levels e.passes hc.2.1 hc.2.2 htok).congr Nat.succ_le_succ_iff.symm
  | .signed s t e => e.passes.signed
  | .operation o t a b => a.passes.operation b.passes
  | .call head o u => by
    refine .of_value rfl fun levels l r rest hc _ htok => ?_
    rw [Concrete.In] at hc
    obtain ⟨hh, ho, hu⟩ := hc
    rw [Concrete.tokens, List.append_assoc] at htok
    rw [operand_of_ident _ (hh.kind_eq htok)]
    refine (named_taken_call levels hh ho htok fun callee r' hr' => ?_).congr
      (iff_of_true trivial (Nat.succ_pos levels))
    have hadv := Reader.advance_tokens_eq hr'
    exact call_taken levels callee hu hr' (callInside_taken_nil levels hu hadv)
  | .callWith head o e es u => by
    refine .of_value rfl fun levels l r rest hc _ htok => ?_
    rw [Concrete.In] at hc
    obtain ⟨hh, ho, he, hes, hu⟩ := hc
    simp only [Concrete.tokens, List.append_assoc, List.cons_append, List.nil_append] at htok
    rw [operand_of_ident _ (hh.kind_eq htok)]
    refine (named_taken_call levels hh ho htok fun callee r' hr' => ?_).congr
      Nat.succ_le_succ_iff.symm
    have hadv := Reader.advance_tokens_eq hr'
    exact call_taken levels callee hu hr' (callInside_taken levels he hadv
      (es.taken levels _ e.passes he hes hu hadv (Nat.lt_add_one _)))
  | .access n as => by
    refine .of_value rfl fun levels l r rest hc hr htok => ?_
    rw [Concrete.In] at hc
    obtain ⟨hn, hne, has⟩ := hc
    rw [operand_of_ident _ ((Reader.kind_eq htok).trans hn)]
    have hadv := Reader.advance_tokens_eq htok
    exact (named_taken_access levels has hne hr htok
      (as.taken levels _ has hr hadv (Nat.lt_add_one _))).congr Nat.succ_le_succ_iff.symm

/-- The arguments up to the closing parenthesis of a call are taken. -/
theorem Arguments.taken : ∀ (as : Arguments) (levels n : Nat) {e : Concrete} {r : Reader}
    {u : Token} {us : List Token}, Passes e → e.In .sum → as.InSum → u.kind = .closeParen →
      r.tokens = e.tokens ++ (as.tokens ++ u :: us) → r.tokens.length < n →
      Taken (max e.demand as.demand ≤ levels) (u :: us) r
        (arguments (fun s r => expression levels s r) n r).2
  | as, levels, 0, e, r, u, us, _, _, _, _, _, hn => absurd hn (Nat.not_lt_zero _)
  | .nil, levels, n + 1, e, r, u, us, hp, he, _, hu, htok, _ => by
    have hin := hp.taken he levels (by rw [hu]; rfl) htok
    have hne : (expression levels 0 r).2.kind ≠ .comma := by
      rw [Reader.kind_eq hin.tokens, hu]
      decide
    rw [arguments_succ, if_neg hne, Arguments.demand, Nat.max_zero]
    exact hin
  | .cons m d as, levels, n + 1, e, r, u, us, hp, he, has, hu, htok, hn => by
    rw [Arguments.InSum] at has
    obtain ⟨hm, hd, has⟩ := has
    rw [Arguments.tokens, List.cons_append, List.append_assoc] at htok
    have hin := hp.taken he levels (by rw [hm]; rfl) htok
    have hadv := hin.advanced
    have hlen : (expression levels 0 r).2.advance.tokens.length < n := by
      rw [hadv.tokens]
      simp only [htok, List.length_append, List.length_cons] at hn ⊢
      omega
    rw [arguments_succ, if_pos ((Reader.kind_eq hin.tokens).trans hm), Arguments.demand]
    exact (hadv.trans (as.taken levels n d.passes hd has hu hadv.tokens hlen)).congr
      Nat.max_le.symm

/-- The accessors of a variable are taken. -/
theorem Accessors.taken : ∀ (as : Accessors) (levels n : Nat) {r : Reader} {rest : List Token},
    as.InSum → Closed rest → r.tokens = as.tokens ++ rest → r.tokens.length < n →
      Taken (as.demand ≤ levels) rest r (accessors (fun s r => expression levels s r) n r).2
  | .nil, levels, n, r, rest, _, hr, htok, _ => by
    have hclosed : Closed r.tokens := htok ▸ hr
    rw [accessors_of_ne _ n (hclosed.kind_ne rfl rfl (by decide))
      (hclosed.kind_ne rfl rfl (by decide))]
    exact (Taken.refl htok).congr (iff_of_true trivial (Nat.zero_le levels))
  | as, levels, 0, r, rest, _, _, _, hn => absurd hn (Nat.not_lt_zero _)
  | .child d m as, levels, n + 1, r, rest, has, hr, htok, hn => by
    rw [Accessors.InSum] at has
    obtain ⟨hd, hm, has⟩ := has
    rw [Accessors.tokens, List.cons_append, List.cons_append] at htok
    have hadv := Reader.advance_tokens_eq htok
    have hadv' := Reader.advance_tokens_eq hadv
    have hlen : r.advance.advance.tokens.length < n := by
      rw [hadv']
      simp only [htok, List.length_cons] at hn
      omega
    rw [accessors_of_dot _ n ((Reader.kind_eq htok).trans hd),
      if_pos ((Reader.kind_eq hadv).trans hm)]
    exact ((as.taken levels n has hr hadv' hlen).of_advance hadv).of_advance htok
  | .index o e u as, levels, n + 1, r, rest, has, hr, htok, hn => by
    rw [Accessors.InSum] at has
    obtain ⟨ho, he, hu, has⟩ := has
    rw [Accessors.tokens, List.cons_append, List.append_assoc, List.cons_append] at htok
    have hin := (e.passes.taken he levels (by rw [hu]; rfl)
      (Reader.advance_tokens_eq htok)).of_advance htok
    have hadv := hin.advanced
    have hlen : (expression levels 0 r.advance).2.advance.tokens.length < n := by
      rw [hadv.tokens]
      simp only [htok, List.length_append, List.length_cons] at hn ⊢
      omega
    rw [accessors_of_openBracket _ n ((Reader.kind_eq htok).trans ho),
      if_pos ((Reader.kind_eq hin.tokens).trans hu)]
    exact (hadv.trans (as.taken levels n has hr hadv.tokens hlen)).congr Nat.max_le.symm

end

end EventSheet
