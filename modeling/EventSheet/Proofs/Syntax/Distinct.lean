import Mathlib.Data.List.Pairwise
import EventSheet.Proofs.Syntax.Nodes

/-!
# Trees whose nodes stand at different places

A span tells which node of a tree is meant when no two nodes have the same one: `Expr.Distinct`.
Then whatever stands below one operand, argument or index of a node stands neither at the node nor
at or below another one.
-/

namespace EventSheet

/-- No node below a node has its span. -/
def Expr.Apart (e : Expr) : Prop := ∀ m ∈ e.descendants, m.span ≠ e.span

/-- No two of some nodes have the same span. -/
def DistinctSpans (ns : List Expr) : Prop := ns.Pairwise fun m n => m.span ≠ n.span

theorem distinctSpans_cons {e : Expr} {ns : List Expr} :
    DistinctSpans (e :: ns) ↔ (∀ n ∈ ns, e.span ≠ n.span) ∧ DistinctSpans ns :=
  List.pairwise_cons

theorem distinctSpans_append {ms ns : List Expr} :
    DistinctSpans (ms ++ ns) ↔
      DistinctSpans ms ∧ DistinctSpans ns ∧ ∀ m ∈ ms, ∀ n ∈ ns, m.span ≠ n.span :=
  List.pairwise_append

/-- A span tells which of some nodes is meant. -/
theorem DistinctSpans.index_eq {ns : List Expr} (h : DistinctSpans ns) {i j : Nat} {m n : Expr}
    (hi : ns[i]? = some m) (hj : ns[j]? = some n) (hspan : m.span = n.span) : i = j := by
  obtain ⟨hilt, rfl⟩ := List.getElem?_eq_some_iff.1 hi
  obtain ⟨hjlt, rfl⟩ := List.getElem?_eq_some_iff.1 hj
  have hordered := List.pairwise_iff_getElem.1 h
  rcases Nat.lt_trichotomy i j with hlt | heq | hlt
  · exact absurd hspan (hordered i j hilt hjlt hlt)
  · exact heq
  · exact absurd hspan.symm (hordered j i hjlt hilt hlt)

/-- No two nodes of the tree have the same span. -/
def Expr.Distinct (e : Expr) : Prop := DistinctSpans e.nodes

namespace Expr.Distinct

variable {e a b c n : Expr}

theorem apart (h : e.Distinct) : e.Apart :=
  fun m hm => Ne.symm ((distinctSpans_cons.1 h).1 m hm)

theorem below (h : e.Distinct) : DistinctSpans (e.children.flatMap nodes) := by
  rw [← descendants_eq_flatMap]
  exact (distinctSpans_cons.1 h).2

theorem children (h : e.Distinct) : DistinctSpans e.children :=
  (List.pairwise_flatMap.1 h.below).2.imp fun hab => hab _ (.head _) _ (.head _)

theorem child (h : e.Distinct) (hc : c ∈ e.children) : c.Distinct :=
  (List.pairwise_flatMap.1 h.below).1 c hc

theorem of_mem_nodes (h : e.Distinct) (hn : n ∈ e.nodes) : n.Distinct := by
  induction e using Expr.induction_children with
  | step e ih =>
    rcases mem_nodes_iff.1 hn with rfl | ⟨c, hc, hn⟩
    · exact h
    · exact ih c hc (h.child hc) hn

/-- What stands at or below one child of a node stands neither at nor below another one. -/
theorem siblings (h : e.Distinct) (ha : a ∈ e.children) (hb : b ∈ e.children) :
    a = b ∨ ∀ m ∈ a.nodes, ∀ n ∈ b.nodes, m.span ≠ n.span := by
  have hsymm : Std.Symm fun a b : Expr => ∀ m ∈ a.nodes, ∀ n ∈ b.nodes, m.span ≠ n.span :=
    ⟨fun _ _ hab m hm n hn => Ne.symm (hab n hn m hm)⟩
  by_cases hab : a = b
  · exact .inl hab
  · exact .inr ((List.pairwise_flatMap.1 h.below).2.forall ha hb hab)

/-- What stands below a child of a node stands at no child. -/
theorem below_child_ne (h : e.Distinct) (ha : a ∈ e.children) (hb : b ∈ e.children)
    (hn : n ∈ a.descendants) : n.span ≠ b.span := by
  rcases h.siblings ha hb with rfl | hab
  · exact (h.child ha).apart n hn
  · exact hab n (.tail _ hn) b (.head _)

end Expr.Distinct

end EventSheet
