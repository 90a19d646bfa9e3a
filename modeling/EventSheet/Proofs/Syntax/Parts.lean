import EventSheet.Proofs.Lexing.Hull
import EventSheet.Proofs.Syntax.Levels
import EventSheet.Proofs.Syntax.Nodes
import EventSheet.Proofs.Syntax.Unambiguity

/-!
# The parts of a derivation

A part of a derivation is an expression on its own: it is a derivation from the weakest layer, it
has some of the tokens that stand one after another, and reading it takes no more levels than
reading the whole. The nodes of the tree are the trees of parts:
`Concrete.exists_part_of_mem_nodes`. The tree of a derivation stands where its tokens are written,
from the start of the first one to the end of the last one: `Concrete.span_expr`.
-/

namespace EventSheet

/-! ### Parts -/

/-- The arguments of a call after the first one. -/
def Arguments.trees : Arguments → List Concrete
  | .nil => []
  | .cons _ e es => e :: es.trees

/-- The indices of a variable. -/
def Accessors.trees : Accessors → List Concrete
  | .nil => []
  | .child _ _ as => as.trees
  | .index _ e _ as => e :: as.trees

namespace Concrete

/-- The operands, arguments and indices of a derivation, or what is held by its parentheses. -/
def children : Concrete → List Concrete
  | group _ e _ => [e]
  | signed _ _ e => [e]
  | operation _ _ a b => [a, b]
  | callWith _ _ e es _ => e :: es.trees
  | access _ as => as.trees
  | _ => []

/-- The first derivation is the second one or stands below it. -/
inductive Part (d : Concrete) : Concrete → Prop
  | refl : Part d d
  | step {c e : Concrete} : e ∈ c.children → Part d e → Part d c

theorem Part.trans {b c d : Concrete} (h : d.Part c) (h' : c.Part b) : d.Part b := by
  induction h' with
  | refl => exact h
  | step he _ ih => exact .step he ih

theorem part_iff {c d : Concrete} : d.Part c ↔ d = c ∨ ∃ e ∈ c.children, d.Part e := by
  constructor
  · rintro (_ | ⟨he, h⟩)
    · exact .inl rfl
    · exact .inr ⟨_, he, h⟩
  · rintro (rfl | ⟨e, he, h⟩)
    · exact .refl
    · exact .step he h

/-- Induction over a derivation that treats all derivations alike. -/
theorem induction_children {motive : Concrete → Prop}
    (step : ∀ c, (∀ e ∈ children c, motive e) → motive c) (c : Concrete) : motive c := by
  refine @Concrete.rec motive (fun es => ∀ e ∈ es.trees, motive e)
    (fun as => ∀ e ∈ as.trees, motive e) ?_ ?_ ?_ ?_ ?_ ?_ ?_ ?_ ?_ ?_ ?_ ?_ ?_ ?_ c
  · exact fun _ => step _ nofun
  · exact fun _ => step _ nofun
  · exact fun _ => step _ nofun
  · exact fun _ e _ he => step _ (List.forall_mem_singleton.2 he)
  · exact fun _ _ e he => step _ (List.forall_mem_singleton.2 he)
  · exact fun _ _ a b ha hb => step _ (List.forall_mem_cons.2 ⟨ha, List.forall_mem_singleton.2 hb⟩)
  · exact fun _ _ _ => step _ nofun
  · exact fun _ _ e es _ he hes => step _ (List.forall_mem_cons.2 ⟨he, hes⟩)
  · exact fun _ as has => step _ has
  · exact nofun
  · exact fun _ e es he hes => List.forall_mem_cons.2 ⟨he, hes⟩
  · exact nofun
  · exact fun _ _ as has => has
  · exact fun _ e _ as he has => List.forall_mem_cons.2 ⟨he, has⟩

end Concrete

/-! ### What parts have of the whole -/

section

variable {e c d : Concrete} {l : Layer}

theorem Arguments.tokens_segment_of_mem :
    ∀ es : Arguments, e ∈ es.trees → e.tokens <:+: es.tokens
  | .cons m f es, h => by
    rcases List.mem_cons.1 h with rfl | h
    · exact ⟨[m], es.tokens, by simp [tokens]⟩
    · exact (es.tokens_segment_of_mem h).trans ⟨m :: f.tokens, [], by simp [tokens]⟩

theorem Accessors.tokens_segment_of_mem :
    ∀ as : Accessors, e ∈ as.trees → e.tokens <:+: as.tokens
  | .child d n as, h => (as.tokens_segment_of_mem h).trans ⟨[d, n], [], by simp [tokens]⟩
  | .index o f u as, h => by
    rcases List.mem_cons.1 h with rfl | h
    · exact ⟨[o], u :: as.tokens, by simp [tokens]⟩
    · exact (as.tokens_segment_of_mem h).trans ⟨o :: (f.tokens ++ [u]), [], by simp [tokens]⟩

theorem Concrete.tokens_segment_of_mem_children (h : e ∈ c.children) : e.tokens <:+: c.tokens := by
  cases c with
  | number | string | name | call => exact nomatch h
  | group o f u =>
    rw [List.mem_singleton.1 h]
    exact ⟨[o], [u], by simp [tokens]⟩
  | signed s t f =>
    rw [List.mem_singleton.1 h]
    exact ⟨[t], [], by simp [tokens]⟩
  | operation o t a b =>
    rcases List.mem_cons.1 h with rfl | h
    · exact ⟨[], t :: b.tokens, by simp [tokens]⟩
    · rw [List.mem_singleton.1 h]
      exact ⟨a.tokens ++ [t], [], by simp [tokens]⟩
  | callWith head o f es u =>
    rcases List.mem_cons.1 h with rfl | h
    · exact ⟨head.tokens ++ [o], es.tokens ++ [u], by simp [tokens]⟩
    · exact (es.tokens_segment_of_mem h).trans
        ⟨head.tokens ++ o :: f.tokens, [u], by simp [tokens]⟩
  | access n as => exact (as.tokens_segment_of_mem h).trans ⟨[n], [], by simp [tokens]⟩

theorem Concrete.length_tokens_lt (h : e ∈ c.children) : e.tokens.length < c.tokens.length := by
  cases c with
  | number | string | name | call => exact nomatch h
  | group o f u =>
    rw [List.mem_singleton.1 h]
    simp only [tokens, List.length_cons, List.length_append]
    omega
  | signed s t f =>
    rw [List.mem_singleton.1 h]
    exact Nat.lt_succ_self _
  | operation o t a b =>
    simp only [children, List.mem_cons, List.not_mem_nil, or_false] at h
    simp only [tokens, List.length_cons, List.length_append]
    rcases h with rfl | rfl <;> omega
  | callWith head o f es u =>
    simp only [tokens, List.length_cons, List.length_append]
    rcases List.mem_cons.1 h with rfl | h
    · omega
    · have hle := (es.tokens_segment_of_mem h).length_le
      omega
  | access n as => exact Nat.lt_succ_of_le (as.tokens_segment_of_mem h).length_le

theorem Arguments.sublist_tokens :
    ∀ es : Arguments, (es.trees.flatMap Concrete.tokens).Sublist es.tokens
  | .nil => .slnil
  | .cons m e es => (es.sublist_tokens.append_left e.tokens).cons m

theorem Accessors.sublist_tokens :
    ∀ as : Accessors, (as.trees.flatMap Concrete.tokens).Sublist as.tokens
  | .nil => .slnil
  | .child d n as => (as.sublist_tokens.cons n).cons d
  | .index o e u as => ((as.sublist_tokens.cons u).append_left e.tokens).cons o

/-- The operands, arguments and indices are written one behind the other. -/
theorem Concrete.sublist_tokens (c : Concrete) :
    (c.children.flatMap tokens).Sublist c.tokens := by
  cases c with
  | number | string | name | call => exact List.nil_sublist _
  | group o e u => simp [children, tokens]
  | signed s t e => simp [children, tokens]
  | operation o t a b => simp [children, tokens]
  | callWith head o e es u =>
    have hes := es.sublist_tokens.trans (List.sublist_append_left es.tokens [u])
    exact ((hes.append_left e.tokens).cons o).trans (List.sublist_append_right _ _)
  | access n as => exact as.sublist_tokens.cons n

theorem Arguments.InSum.of_mem :
    ∀ {es : Arguments}, es.InSum → e ∈ es.trees → e.In .sum
  | .cons m f es, hs, h => by
    rw [Arguments.InSum] at hs
    rcases List.mem_cons.1 h with rfl | h
    · exact hs.2.1
    · exact hs.2.2.of_mem h

theorem Accessors.InSum.of_mem :
    ∀ {as : Accessors}, as.InSum → e ∈ as.trees → e.In .sum
  | .child d n as, hs, h => by
    rw [Accessors.InSum] at hs
    exact hs.2.2.of_mem h
  | .index o f u as, hs, h => by
    rw [Accessors.InSum] at hs
    rcases List.mem_cons.1 h with rfl | h
    · exact hs.2.1
    · exact hs.2.2.2.of_mem h

theorem Concrete.In.of_mem_children (hc : c.In l) (h : e ∈ c.children) : e.In .sum := by
  cases c with
  | number | string | name | call => exact nomatch h
  | group o f u =>
    rw [Concrete.In] at hc
    rw [List.mem_singleton.1 h]
    exact hc.2.1
  | signed s t f =>
    rw [Concrete.In] at hc
    rw [List.mem_singleton.1 h]
    exact hc.2.2.sum
  | operation o t a b =>
    rw [Concrete.In] at hc
    rcases List.mem_cons.1 h with rfl | h
    · exact hc.2.2.1.sum
    · rw [List.mem_singleton.1 h]
      exact hc.2.2.2.sum
  | callWith head o f es u =>
    rw [Concrete.In] at hc
    rcases List.mem_cons.1 h with rfl | h
    · exact hc.2.2.1
    · exact hc.2.2.2.1.of_mem h
  | access n as =>
    rw [Concrete.In] at hc
    exact hc.2.2.of_mem h

theorem Arguments.demand_le_of_mem : ∀ es : Arguments, e ∈ es.trees → e.demand ≤ es.demand
  | .cons m f es, h => by
    rw [demand]
    rcases List.mem_cons.1 h with rfl | h
    · exact Nat.le_max_left _ _
    · exact Nat.le_trans (es.demand_le_of_mem h) (Nat.le_max_right _ _)

theorem Accessors.demand_le_of_mem : ∀ as : Accessors, e ∈ as.trees → e.demand ≤ as.demand
  | .child d n as, h => by
    rw [demand]
    exact as.demand_le_of_mem h
  | .index o f u as, h => by
    rw [demand]
    rcases List.mem_cons.1 h with rfl | h
    · exact Nat.le_max_left _ _
    · exact Nat.le_trans (as.demand_le_of_mem h) (Nat.le_max_right _ _)

theorem Concrete.demand_le_of_mem_children (h : e ∈ c.children) : e.demand ≤ c.demand := by
  cases c with
  | number | string | name | call => exact nomatch h
  | group | signed =>
    rw [List.mem_singleton.1 h, demand]
    exact Nat.le_succ _
  | operation o t a b =>
    simp only [children, List.mem_cons, List.not_mem_nil, or_false] at h
    rcases h with rfl | rfl <;> rw [demand] <;> omega
  | callWith head o f es u =>
    rw [demand]
    rcases List.mem_cons.1 h with rfl | h
    · omega
    · have hle := es.demand_le_of_mem h
      omega
  | access n as =>
    rw [demand]
    exact Nat.le_succ_of_le (as.demand_le_of_mem h)

namespace Concrete.Part

/-- A part has tokens of the whole that stand one after another. -/
theorem tokens_segment (h : d.Part c) : d.tokens <:+: c.tokens := by
  induction h with
  | refl => exact List.infix_refl _
  | step he _ ih => exact ih.trans (tokens_segment_of_mem_children he)

theorem in_sum (h : d.Part c) (hc : c.In .sum) : d.In .sum := by
  induction h with
  | refl => exact hc
  | step he _ ih => exact ih (hc.of_mem_children he)

theorem demand_le (h : d.Part c) : d.demand ≤ c.demand := by
  induction h with
  | refl => exact Nat.le_refl _
  | step he _ ih => exact Nat.le_trans ih (demand_le_of_mem_children he)

end Concrete.Part

end

/-! ### Nodes -/

theorem Arguments.exprs_eq_map : ∀ es : Arguments, es.exprs = es.trees.map Concrete.expr
  | .nil => by rw [exprs, trees, List.map_nil]
  | .cons _ e es => by rw [exprs, trees, List.map_cons, es.exprs_eq_map]

theorem Accessors.indices_steps :
    ∀ as : Accessors, indices as.steps = as.trees.map Concrete.expr
  | .nil => by rw [steps, indices, trees, List.map_nil]
  | .child _ _ as => by rw [steps, indices, trees, as.indices_steps]
  | .index _ e _ as => by rw [steps, indices, trees, List.map_cons, as.indices_steps]

/-- The operands, arguments and indices of the tree are the trees of parts. -/
theorem Concrete.exists_part_of_mem_children :
    ∀ (c : Concrete) {x : Expr}, x ∈ c.expr.children → ∃ d : Concrete, d.Part c ∧ x = d.expr
  | .number _, x, h | .string _, x, h | .name _, x, h | .call _ _ _, x, h => by
    simp [expr, Expr.children] at h
  | .group o e u, x, h => by
    rw [expr, Expr.children_withSpan] at h
    obtain ⟨d, hd, hx⟩ := e.exists_part_of_mem_children h
    exact ⟨d, .step (.head _) hd, hx⟩
  | .signed s t e, x, h => by
    simp only [expr, Expr.children, List.mem_singleton] at h
    exact ⟨e, .step (.head _) .refl, h⟩
  | .operation o t a b, x, h => by
    simp only [expr, Expr.children, List.mem_cons, List.not_mem_nil, or_false] at h
    rcases h with h | h
    · exact ⟨a, .step (.head _) .refl, h⟩
    · exact ⟨b, .step (.tail _ (.head _)) .refl, h⟩
  | .callWith head o e es u, x, h => by
    simp only [expr, Expr.children, es.exprs_eq_map, ← List.map_cons, List.mem_map] at h
    obtain ⟨d, hd, hx⟩ := h
    exact ⟨d, .step hd .refl, hx.symm⟩
  | .access n as, x, h => by
    simp only [expr, Expr.children, as.indices_steps, List.mem_map] at h
    obtain ⟨d, hd, hx⟩ := h
    exact ⟨d, .step hd .refl, hx.symm⟩

/-- The nodes of the tree are the trees of parts. -/
theorem Concrete.exists_part_of_mem_nodes (c : Concrete) {n : Expr} (h : n ∈ c.expr.nodes) :
    ∃ d : Concrete, d.Part c ∧ n = d.expr := by
  induction hexpr : c.expr using Expr.induction_children generalizing c with
  | step e ih =>
    rcases Expr.mem_nodes_iff.1 h with hroot | ⟨x, hx, hn⟩
    · exact ⟨c, .refl, hroot⟩
    · obtain ⟨d, hd, rfl⟩ := c.exists_part_of_mem_children hx
      obtain ⟨d', hd', hexpr'⟩ := ih _ (hexpr ▸ hx) d hn rfl
      exact ⟨d', hd'.trans hd, hexpr'⟩

/-! ### Where a tree is written -/

theorem Head.start_callee (head : Head) (ts : List Token) :
    head.callee.start = (Token.hull (head.tokens ++ ts)).start := by
  cases head <;> rfl

/-- Accessors stop where the last of their tokens does, and without one where the name before them
does. -/
theorem Accessors.stop_eq_hull :
    ∀ (as : Accessors) (t : Token), as.stop t.span.stop = (Token.hull (t :: as.tokens)).stop
  | .nil, _ => rfl
  | .child _ n as, _ => as.stop_eq_hull n
  | .index o e u as, t => by
    rw [stop, as.stop_eq_hull u, tokens, ← List.cons_append, ← List.cons_append,
      Token.hull_append_cons_stop]

/-- The tree of a derivation stands where its tokens are written. -/
theorem Concrete.span_expr : ∀ (c : Concrete) {l : Layer}, c.In l → Token.InOrder c.tokens →
    c.expr.span = Token.hull c.tokens
  | .number _, _, _, _ | .string _, _, _, _ | .name _, _, _, _ => rfl
  | .group o e u, _, _, h => by
    have hfront : [o] <+: (group o e u).tokens := ⟨e.tokens ++ [u], rfl⟩
    have hback : [u] <:+ (group o e u).tokens := ⟨o :: e.tokens, by simp [tokens]⟩
    rw [expr, Expr.span_withSpan]
    exact h.merge_hull hfront hback nofun nofun
  | .signed s t e, _, hc, h => by
    rw [Concrete.In] at hc
    rw [expr, Expr.span, e.span_expr hc.2.2 (h.segment ⟨[t], [], by simp [tokens]⟩)]
    have hfront : [t] <+: (signed s t e).tokens := ⟨e.tokens, rfl⟩
    exact h.merge_hull hfront ⟨[t], rfl⟩ nofun hc.2.2.tokens_ne_nil
  | .operation o t a b, _, hc, h => by
    rw [Concrete.In] at hc
    obtain ⟨-, -, ha, hb⟩ := hc
    rw [expr, Expr.span, a.span_expr ha (h.segment ⟨[], t :: b.tokens, rfl⟩),
      b.span_expr hb (h.segment ⟨a.tokens ++ [t], [], by simp [tokens]⟩)]
    exact h.merge_hull ⟨t :: b.tokens, rfl⟩ ⟨a.tokens ++ [t], by simp [tokens]⟩ ha.tokens_ne_nil
      hb.tokens_ne_nil
  | .call head o u, _, _, _ => by
    have hback : [u] <:+ head.tokens ++ [o, u] := ⟨head.tokens ++ [o], by simp⟩
    rw [expr, Expr.span, tokens, head.start_callee [o, u]]
    exact congrArg (Span.mk _) (Token.hull_stop_eq hback nofun)
  | .callWith head o e es u, _, _, _ => by
    have hback : [u] <:+ head.tokens ++ o :: (e.tokens ++ (es.tokens ++ [u])) :=
      ⟨head.tokens ++ o :: (e.tokens ++ es.tokens), by simp⟩
    rw [expr, Expr.span, tokens, head.start_callee]
    exact congrArg (Span.mk _) (Token.hull_stop_eq hback nofun)
  | .access n as, _, _, h => by
    have hle : n.span.stop ≤ (Token.hull (n :: as.tokens)).stop := (h.hull_le (.head _)).2
    rw [expr, Expr.span, as.stop_eq_hull, Nat.max_eq_left hle]
    rfl

/-- A part that stands where the whole stands is the whole. -/
theorem Concrete.Part.eq_of_span {c d : Concrete} (h : d.Part c) (hc : c.In .sum)
    (horder : Token.InOrder c.tokens) (hspan : d.expr.span = c.expr.span) : d = c := by
  rcases part_iff.1 h with rfl | ⟨e, he, hd⟩
  · rfl
  · have hin := h.in_sum hc
    rw [d.span_expr hin (horder.segment h.tokens_segment), c.span_expr hc horder] at hspan
    have htok := horder.eq_of_hull h.tokens_segment hin.tokens_ne_nil hspan
    have hlt := length_tokens_lt he
    have hle := hd.tokens_segment.length_le
    rw [htok] at hle
    omega

end EventSheet
