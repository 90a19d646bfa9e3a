import EventSheet.Proofs.Reading.Nesting
import EventSheet.Proofs.Syntax.Shifting

/-!
# Slices of a text that are expressions

The span of a node covers exactly the tokens that the node was read from, so that its slice of the
text can be read on its own and gives the same node: `parse_slice`.
-/

namespace EventSheet

/-- A part of an expression that fits is read from its own slice of the text. -/
theorem parse_slice_of_part {source : String} {c d : Concrete} (hc : c.In .sum)
    (htok : c.tokens = Token.lex source) (hfits : c.demand ≤ nestingLimit) (hd : d.Part c) :
    (parse (d.expr.span.slice source)).ok = true ∧
      (parse (d.expr.span.slice source)).root.shift d.expr.span.start = d.expr := by
  have hin := hd.in_sum hc
  obtain ⟨before, behind, hsplit⟩ := hd.tokens_segment
  rw [htok, List.append_assoc] at hsplit
  have horder : Token.InOrder c.tokens := htok ▸ Token.lexFrom_inOrder 0 source.toList
  have hspan := d.span_expr hin (horder.segment hd.tokens_segment)
  have hslice := Token.lex_slice hsplit.symm hin.tokens_ne_nil
  rw [← hspan] at hslice
  have hkinds : kinds (Token.lex (d.expr.span.slice source)) = kinds d.tokens := by
    rw [← hslice, kinds, kinds, List.map_map]
    rfl
  obtain ⟨d', hin', htok'⟩ := derives_iff_exists_concrete.1
    (hkinds ▸ derives_iff_exists_concrete.2 ⟨d, hin, rfl⟩)
  have hshift : d'.shift d.expr.span.start = d := by
    refine Concrete.In.eq_of_tokens ((d'.in_shift _).2 hin') hin ?_
    rw [Concrete.tokens_shift, htok', hslice]
  have hfits' : d'.demand ≤ nestingLimit := by
    rw [← d'.demand_shift d.expr.span.start, hshift]
    exact Nat.le_trans hd.demand_le hfits
  obtain ⟨hok, hroot⟩ := parse_of_fitting hin' htok' hfits'
  refine ⟨hok, ?_⟩
  rw [hroot, ← Concrete.expr_shift, hshift]

/-- Spans delimit expressions. The root of a text that is accepted runs from the start of the first
token to the end of the last one, and the slice of the text under any node is accepted as well and
gives the same node, moved to the beginning of the text. -/
theorem parse_slice {source : String} (h : Token.lex source ≠ []) (hok : (parse source).ok = true) :
    (parse source).root.span = Token.hull (Token.lex source) ∧
    ∀ n ∈ (parse source).root.nodes,
      (parse (n.span.slice source)).ok = true ∧
        (parse (n.span.slice source)).root.shift n.span.start = n := by
  obtain ⟨c, hc, htok, hroot⟩ := exists_concrete_of_ok h hok
  have hfits := demand_le_of_ok hc htok hok
  rw [hroot]
  refine ⟨?_, fun n hn => ?_⟩
  · rw [c.span_expr hc (htok ▸ Token.lexFrom_inOrder 0 source.toList), htok]
  · obtain ⟨d, hd, rfl⟩ := c.exists_part_of_mem_nodes hn
    exact parse_slice_of_part hc htok hfits hd

theorem parse_slice_of_call :
    (parse "f((1), -a[2 + 3]) * 4").root.span = Token.hull (Token.lex "f((1), -a[2 + 3]) * 4") ∧
    ∀ n ∈ (parse "f((1), -a[2 + 3]) * 4").root.nodes,
      (parse (n.span.slice "f((1), -a[2 + 3]) * 4")).ok = true ∧
        (parse (n.span.slice "f((1), -a[2 + 3]) * 4")).root.shift n.span.start = n :=
  parse_slice (by decide +kernel) (by decide +kernel)

end EventSheet
