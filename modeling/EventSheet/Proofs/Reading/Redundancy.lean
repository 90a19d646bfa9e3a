import EventSheet.Proofs.Reading.Acceptance

/-!
# Redundant parentheses

The warnings for a text that is accepted are for the groups of its derivation that hold nothing but
another group, each once and in the order in which they are closed: `parse_redundant`.
-/

namespace EventSheet

/-- What is reported of a text that is accepted is what its derivation keeps of its groups. -/
theorem diagnostics_eq_mark {source : String} {c : Concrete} (hc : c.In .sum)
    (htok : c.tokens = Token.lex source) (hok : (parse source).ok = true) :
    (parse source).diagnostics = (c.mark ⟨none, []⟩).diagnostics := by
  have hf := (closeText_leads _).faultless (faultless_of_ok (htok ▸ hc.tokens_ne_nil) hok)
  obtain ⟨d, hd, haccounts⟩ := exists_accounts_of_faultless hf
  have hend : (readText source).2.tokens = [] :=
    tokens_eq_nil_of_faultless (faultless_of_ok (htok ▸ hc.tokens_ne_nil) hok)
  have hdtok := haccounts.tokens
  rw [hend, List.append_nil] at hdtok
  rw [diagnostics_of_concrete hc htok, hc.eq_of_tokens hd (htok.trans hdtok), ← haccounts.marks]
  rfl

/-- Redundant parentheses are found exactly. A text that is accepted has no diagnostics but the
warnings for its redundant parentheses. These are, in the order in which they are closed and each
once, the groups of its derivation that hold nothing but another group. -/
theorem parse_redundant {source : String} (hok : (parse source).ok = true) :
    ∃ spans : List Span,
      (parse source).diagnostics = spans.map (⟨.redundantParentheses, ·⟩) ∧
      spans.Pairwise (fun s t => s.stop < t.stop) ∧
      ∀ s, s ∈ spans ↔ ∃ c d : Concrete,
        c.In .sum ∧ c.tokens = Token.lex source ∧ d.Part c ∧ d.Doubled s := by
  by_cases hnil : Token.lex source = []
  · refine ⟨[], parse_of_nil hnil, .nil, fun s => ⟨nofun, ?_⟩⟩
    rintro ⟨c, d, hc, htok, -⟩
    exact absurd (htok.trans hnil) hc.tokens_ne_nil
  obtain ⟨c, hc, htok, -⟩ := exists_concrete_of_ok hnil hok
  have horder : Token.InOrder c.tokens := htok ▸ Token.lexFrom_inOrder 0 source.toList
  refine ⟨c.redundant, ?_, c.redundant_pairwise horder, fun s => ?_⟩
  · have hbefore : Marks.Before c.tokens ⟨none, []⟩ := fun g hg => nomatch hg
    rw [diagnostics_eq_mark hc htok hok, c.diagnostics_mark hc horder hbefore]
    rfl
  · rw [Concrete.mem_redundant_iff]
    constructor
    · rintro ⟨d, hd, hs⟩
      exact ⟨c, d, hc, htok, hd, hs⟩
    · rintro ⟨c', d, hc', htok', hd, hs⟩
      obtain rfl := hc'.eq_of_tokens hc (htok'.trans htok.symm)
      exact ⟨d, hd, hs⟩

theorem parse_redundant_nested :
    ∃ spans : List Span,
      (parse "f((((1))), ((2)+3)) * ((4))").diagnostics =
        spans.map (⟨.redundantParentheses, ·⟩) ∧
      spans.Pairwise (fun s t => s.stop < t.stop) ∧
      ∀ s, s ∈ spans ↔ ∃ c d : Concrete,
        c.In .sum ∧ c.tokens = Token.lex "f((((1))), ((2)+3)) * ((4))" ∧ d.Part c ∧ d.Doubled s :=
  parse_redundant (by decide +kernel)

-- `((2)+3)` begins with a group but holds more than that
example : (parse "f((((1))), ((2)+3)) * ((4))").diagnostics =
    [⟨3, 8⟩, ⟨2, 9⟩, ⟨22, 27⟩].map (⟨.redundantParentheses, ·⟩) := by
  decide +kernel

end EventSheet
