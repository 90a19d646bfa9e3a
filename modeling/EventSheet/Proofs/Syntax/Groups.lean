import EventSheet.Proofs.Syntax.Parts

/-!
# Groups in a derivation

Reading remembers where the group closed last stands and takes a group for redundant when that is
all that it holds. `Concrete.mark` is what reading a derivation leaves of that memory and of the
warnings. Since tokens stand one behind the other, only a group can have the span of the group
closed last: `Concrete.group_mark_ne`. So the warnings are for the groups that hold nothing but
another group, in the order in which they are closed: `Concrete.diagnostics_mark`.
-/

namespace EventSheet

/-! ### What reading keeps of groups -/

/-- The span of the group closed last, and what was reported so far. -/
structure Marks where
  group : Option Span
  diagnostics : List Diagnostic

/-- Closes a group with the given span around an expression with the given span. -/
def Marks.close (content span : Span) (m : Marks) : Marks :=
  ⟨some span, if m.group = some content then m.diagnostics ++ [⟨.redundantParentheses, span⟩]
    else m.diagnostics⟩

mutual

/-- What reading a derivation keeps of its groups. -/
def Concrete.mark : Concrete → Marks → Marks
  | .number _, m | .string _, m | .name _, m | .call _ _ _, m => m
  | .group o e u, m => (e.mark m).close e.expr.span (o.span.merge u.span)
  | .signed _ _ e, m => e.mark m
  | .operation _ _ a b, m => b.mark (a.mark m)
  | .callWith _ _ e es _, m => es.mark (e.mark m)
  | .access _ as, m => as.mark m

/-- What reading arguments keeps of their groups. -/
def Arguments.mark : Arguments → Marks → Marks
  | .nil, m => m
  | .cons _ e es, m => es.mark (e.mark m)

/-- What reading accessors keeps of their groups. -/
def Accessors.mark : Accessors → Marks → Marks
  | .nil, m => m
  | .child _ _ as, m => as.mark m
  | .index _ e _ as, m => as.mark (e.mark m)

end

/-- Whether the derivation is a parenthesised group. -/
def Concrete.isGroup : Concrete → Bool
  | .group _ _ _ => true
  | _ => false

/-- The derivation is a group that holds nothing but another group, and the span is where it
stands. -/
inductive Concrete.Doubled : Concrete → Span → Prop
  | intro {o o' u' u : Token} {e : Concrete} :
      Doubled (.group o (.group o' e u') u) ⟨o.span.start, u.span.stop⟩

mutual

/-- The groups of a derivation that hold nothing but another group, as they are closed. -/
def Concrete.redundant : Concrete → List Span
  | .number _ | .string _ | .name _ | .call _ _ _ => []
  | .group o e u =>
    e.redundant ++ if e.isGroup then [⟨o.span.start, u.span.stop⟩] else []
  | .signed _ _ e => e.redundant
  | .operation _ _ a b => a.redundant ++ b.redundant
  | .callWith _ _ e es _ => e.redundant ++ es.redundant
  | .access _ as => as.redundant

/-- The groups of arguments that hold nothing but another group, as they are closed. -/
def Arguments.redundant : Arguments → List Span
  | .nil => []
  | .cons _ e es => e.redundant ++ es.redundant

/-- The groups of accessors that hold nothing but another group, as they are closed. -/
def Accessors.redundant : Accessors → List Span
  | .nil => []
  | .child _ _ as => as.redundant
  | .index _ e _ as => e.redundant ++ as.redundant

end

namespace Concrete

theorem exists_of_isGroup {c : Concrete} (h : c.isGroup = true) :
    ∃ o e u, c = group o e u := by
  cases c with
  | group o e u => exact ⟨o, e, u, rfl⟩
  | _ => exact nomatch h

end Concrete

theorem Arguments.mark_eq_foldl :
    ∀ (es : Arguments) (m : Marks), es.mark m = es.trees.foldl (fun m e => e.mark m) m
  | .nil, _ => rfl
  | .cons _ e es, m => es.mark_eq_foldl (e.mark m)

theorem Accessors.mark_eq_foldl :
    ∀ (as : Accessors) (m : Marks), as.mark m = as.trees.foldl (fun m e => e.mark m) m
  | .nil, _ => rfl
  | .child _ _ as, m => as.mark_eq_foldl m
  | .index _ e _ as, m => as.mark_eq_foldl (e.mark m)

/-- But for a group, reading a derivation is reading its operands, arguments and indices. -/
theorem Concrete.mark_eq_foldl {c : Concrete} (h : c.isGroup = false) (m : Marks) :
    c.mark m = c.children.foldl (fun m e => e.mark m) m := by
  cases c with
  | number | string | name | call | signed | operation => rfl
  | group => exact nomatch h
  | callWith head o e es u => exact es.mark_eq_foldl (e.mark m)
  | access n as => exact as.mark_eq_foldl m

theorem Arguments.redundant_eq_flatMap :
    ∀ es : Arguments, es.redundant = es.trees.flatMap Concrete.redundant
  | .nil => rfl
  | .cons _ e es => congrArg (e.redundant ++ ·) es.redundant_eq_flatMap

theorem Accessors.redundant_eq_flatMap :
    ∀ as : Accessors, as.redundant = as.trees.flatMap Concrete.redundant
  | .nil => rfl
  | .child _ _ as => as.redundant_eq_flatMap
  | .index _ e _ as => congrArg (e.redundant ++ ·) as.redundant_eq_flatMap

theorem Concrete.redundant_eq_flatMap {c : Concrete} (h : c.isGroup = false) :
    c.redundant = c.children.flatMap redundant := by
  cases c with
  | number | string | name | call => rfl
  | group => exact nomatch h
  | signed s t e => simp [redundant, children]
  | operation o t a b => simp [redundant, children]
  | callWith head o e es u => exact congrArg (e.redundant ++ ·) es.redundant_eq_flatMap
  | access n as => exact as.redundant_eq_flatMap

/-! ### The group closed last -/

/-- The group closed last ended before some tokens. -/
def Marks.Before (ts : List Token) (m : Marks) : Prop :=
  ∀ g, m.group = some g → ∀ t ∈ ts, g.stop ≤ t.span.start

theorem Marks.Before.subset {us ts : List Token} {m : Marks} (h : m.Before ts) (hu : us ⊆ ts) :
    m.Before us :=
  fun g hg t ht => h g hg t (hu ht)

namespace Concrete

section

variable {c : Concrete} {m : Marks}

/-- The group closed last is a group of the derivation or was closed before it. -/
theorem group_mark (c : Concrete) (m : Marks) :
    (c.mark m).group = m.group ∨
      ∃ d : Concrete, d.Part c ∧ d.isGroup = true ∧ (c.mark m).group = some d.expr.span := by
  induction c using induction_children generalizing m with
  | step c ih =>
    cases hgroup : c.isGroup with
    | true =>
      obtain ⟨o, e, u, rfl⟩ := exists_of_isGroup hgroup
      refine .inr ⟨_, .refl, rfl, ?_⟩
      rw [expr, Expr.span_withSpan]
      rfl
    | false =>
      rw [mark_eq_foldl hgroup]
      refine List.foldlRecOn (motive := fun m' : Marks => m'.group = m.group ∨ ∃ d : Concrete,
        d.Part c ∧ d.isGroup = true ∧ m'.group = some d.expr.span) _ _ (.inl rfl) ?_
      intro m' hm' e he
      rcases ih e he m' with hsame | ⟨d, hd, hdgroup, hlast⟩
      · rw [hsame]
        exact hm'
      · exact .inr ⟨d, .step he hd, hdgroup, hlast⟩

/-- A derivation leaves behind no group that ends after what stands before the tokens to come. -/
theorem mark_before {ts : List Token} (hc : c.In .sum) (h : Token.InOrder (c.tokens ++ ts))
    (hm : m.Before ts) : (c.mark m).Before ts := by
  intro g hg t ht
  rcases c.group_mark m with hsame | ⟨d, hd, -, hlast⟩
  · exact hm g (hsame ▸ hg) t ht
  · obtain rfl : d.expr.span = g := Option.some.inj (hlast.symm.trans hg)
    have hin := hd.in_sum hc
    have horder := h.left.segment hd.tokens_segment
    obtain ⟨u, hu, hstop⟩ := Token.exists_mem_stop hin.tokens_ne_nil
    rw [d.span_expr hin horder, hstop]
    exact h.stop_le (hd.tokens_segment.subset hu) ht

/-- The group closed last is all of a derivation exactly when the derivation is a group. -/
theorem group_mark_iff (hc : c.In .sum) (h : Token.InOrder c.tokens) (hm : m.Before c.tokens) :
    (c.mark m).group = some c.expr.span ↔ c.isGroup = true := by
  constructor
  · intro hlast
    rcases c.group_mark m with hsame | ⟨d, hd, hdgroup, hlast'⟩
    · -- a group closed before the derivation ends where none of its tokens does
      obtain ⟨u, hu, hstop⟩ := Token.exists_mem_stop hc.tokens_ne_nil
      have hbefore := hm _ (hsame.symm.trans hlast) u hu
      have hforward := h.forward u hu
      rw [c.span_expr hc h, hstop] at hbefore
      omega
    · obtain rfl := hd.eq_of_span hc h (Option.some.inj (hlast'.symm.trans hlast))
      exact hdgroup
  · intro hgroup
    obtain ⟨o, e, u, rfl⟩ := exists_of_isGroup hgroup
    rw [expr, Expr.span_withSpan]
    rfl

/-! ### What is reported -/

/-- The warnings for the groups that were closed around derivations one behind the other. -/
theorem diagnostics_foldl_mark {es : List Concrete} {m : Marks} (hes : ∀ e ∈ es, e.In .sum)
    (h : Token.InOrder (es.flatMap tokens)) (hm : m.Before (es.flatMap tokens))
    (ih : ∀ e ∈ es, ∀ m : Marks, Token.InOrder e.tokens → m.Before e.tokens →
      (e.mark m).diagnostics = m.diagnostics ++ e.redundant.map (⟨.redundantParentheses, ·⟩)) :
    (es.foldl (fun m e => e.mark m) m).diagnostics =
      m.diagnostics ++ (es.flatMap redundant).map (⟨.redundantParentheses, ·⟩) := by
  induction es generalizing m with
  | nil => simp
  | cons e es ihs =>
    obtain ⟨he, hes⟩ := List.forall_mem_cons.1 hes
    obtain ⟨ihe, ihes⟩ := List.forall_mem_cons.1 ih
    rw [List.flatMap_cons] at h hm
    have hbefore := mark_before he h (hm.subset (List.subset_append_right _ _))
    have hrest := ihs hes h.right hbefore ihes
    have hfirst := ihe m h.left (hm.subset (List.subset_append_left _ _))
    rw [List.foldl_cons, hrest, hfirst, List.flatMap_cons, List.map_append, List.append_assoc]

/-- Reading a derivation warns of the groups that hold nothing but another group, in the order in
which they are closed. -/
theorem diagnostics_mark (c : Concrete) {m : Marks} (hc : c.In .sum) (h : Token.InOrder c.tokens)
    (hm : m.Before c.tokens) :
    (c.mark m).diagnostics =
      m.diagnostics ++ c.redundant.map (⟨.redundantParentheses, ·⟩) := by
  induction c using induction_children generalizing m with
  | step c ih =>
    cases hgroup : c.isGroup with
    | true =>
      obtain ⟨o, e, u, rfl⟩ := exists_of_isGroup hgroup
      have he := hc.of_mem_children (List.mem_singleton_self e)
      have hinside : e.tokens <:+: (group o e u).tokens := ⟨[o], [u], by simp [tokens]⟩
      have hbefore := hm.subset hinside.subset
      have hcontent := ih e (List.mem_singleton_self e) he (h.segment hinside) hbefore
      have hiff := group_mark_iff he (h.segment hinside) hbefore
      have hspan : (group o e u).expr.span = _ := (span_expr _ hc h).trans Token.hull_ends
      rw [expr, Expr.span_withSpan] at hspan
      rw [mark, redundant, Marks.close, hspan, List.map_append, ← List.append_assoc, ← hcontent]
      cases he : e.isGroup with
      | true => simp [hiff.2 he]
      | false => simp [hiff, he]
    | false =>
      rw [mark_eq_foldl hgroup, redundant_eq_flatMap hgroup]
      have hsub := c.sublist_tokens
      exact diagnostics_foldl_mark (fun e he => hc.of_mem_children he) (h.sublist hsub)
        (hm.subset hsub.subset) fun e he m h hm => ih e he (hc.of_mem_children he) h hm

/-! ### Which groups are reported -/

theorem doubled_group_iff {o e u} {s : Span} :
    (group o e u).Doubled s ↔ e.isGroup = true ∧ s = ⟨o.span.start, u.span.stop⟩ := by
  constructor
  · rintro ⟨⟩
    exact ⟨rfl, rfl⟩
  · rintro ⟨hgroup, rfl⟩
    obtain ⟨o', e', u', rfl⟩ := exists_of_isGroup hgroup
    exact .intro

theorem Doubled.isGroup {s : Span} (h : c.Doubled s) : c.isGroup = true := by
  cases h
  rfl

/-- The groups that are reported are the parts that hold nothing but another group. -/
theorem mem_redundant_iff {s : Span} :
    s ∈ c.redundant ↔ ∃ d : Concrete, d.Part c ∧ d.Doubled s := by
  induction c using induction_children with
  | step c ih =>
    have hparts : (∃ d : Concrete, d.Part c ∧ d.Doubled s) ↔
        (∃ e ∈ c.children, s ∈ e.redundant) ∨ c.Doubled s := by
      constructor
      · rintro ⟨d, hd, hs⟩
        rcases part_iff.1 hd with rfl | ⟨e, he, hd⟩
        · exact .inr hs
        · exact .inl ⟨e, he, (ih e he).2 ⟨d, hd, hs⟩⟩
      · rintro (⟨e, he, hs⟩ | hs)
        · obtain ⟨d, hd, hs⟩ := (ih e he).1 hs
          exact ⟨d, .step he hd, hs⟩
        · exact ⟨c, .refl, hs⟩
    rw [hparts]
    cases hgroup : c.isGroup with
    | true =>
      obtain ⟨o, e, u, rfl⟩ := exists_of_isGroup hgroup
      rw [doubled_group_iff]
      cases he : e.isGroup <;> simp [redundant, children, he]
    | false =>
      have hsingle : ¬ c.Doubled s := fun hs => by simp [hs.isGroup] at hgroup
      rw [redundant_eq_flatMap hgroup, List.mem_flatMap, or_iff_left hsingle]

/-- A group that is reported ends with a token of the derivation. -/
theorem exists_stop_of_mem_redundant {s : Span} (h : s ∈ c.redundant) :
    ∃ t ∈ c.tokens, s.stop = t.span.stop := by
  obtain ⟨d, hd, hs⟩ := mem_redundant_iff.1 h
  cases hs with
  | @intro o o' u' u e => exact ⟨u, hd.tokens_segment.subset (by simp [tokens]), rfl⟩

/-- What ends with a token ends before what ends with one of the tokens behind. -/
theorem stop_lt_of_behind {us vs : List Token} (hforward : ∀ v ∈ vs, v.span.start < v.span.stop)
    (hbehind : ∀ u ∈ us, ∀ v ∈ vs, u.span.stop ≤ v.span.start) {s t : Span}
    (hs : ∃ u ∈ us, s.stop = u.span.stop) (ht : ∃ v ∈ vs, t.stop = v.span.stop) :
    s.stop < t.stop := by
  obtain ⟨u, hu, hus⟩ := hs
  obtain ⟨v, hv, hvt⟩ := ht
  have hv' := hforward v hv
  have huv := hbehind u hu v hv
  omega

/-- They are reported in the order in which they are closed, each once. -/
theorem redundant_pairwise (h : Token.InOrder c.tokens) :
    c.redundant.Pairwise fun s t => s.stop < t.stop := by
  induction c using induction_children with
  | step c ih =>
    have hchild : ∀ e ∈ c.children, e.redundant.Pairwise fun s t => s.stop < t.stop :=
      fun e he => ih e he (h.segment (tokens_segment_of_mem_children he))
    cases hgroup : c.isGroup with
    | true =>
      obtain ⟨o, e, u, rfl⟩ := exists_of_isGroup hgroup
      refine List.pairwise_append.2 ⟨hchild e (.head _), ?_, ?_⟩
      · cases e.isGroup <;> simp
      · intro s hs t ht
        have hclose : t.stop = u.span.stop := by
          cases hinner : e.isGroup <;> simp_all
        have hinside : Token.InOrder (e.tokens ++ [u]) := h.segment ⟨[o], [], by simp [tokens]⟩
        exact stop_lt_of_behind (fun v hv => hinside.forward v (List.mem_append_right _ hv))
          (fun v hv w hw => hinside.stop_le hv hw) (exists_stop_of_mem_redundant hs)
          ⟨u, .head _, hclose⟩
    | false =>
      have horder := h.sublist c.sublist_tokens
      rw [redundant_eq_flatMap hgroup]
      refine List.pairwise_flatMap.2 ⟨hchild, ?_⟩
      refine (List.pairwise_flatMap.1 horder.apart).2.imp_of_mem ?_
      intro e f _ hf hbehind s hs t ht
      exact stop_lt_of_behind
        (fun v hv => horder.forward v (List.mem_flatMap.2 ⟨f, hf, hv⟩)) hbehind
        (exists_stop_of_mem_redundant hs) (exists_stop_of_mem_redundant ht)

end

end Concrete

end EventSheet
