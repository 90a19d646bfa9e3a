import EventSheet.Proofs.Reading.Acceptance
import EventSheet.Proofs.Typing.Fitting
import EventSheet.Report.Basic

/-!
# The type of what is accepted

A text that is accepted where a type is required resolves to a type that can stand there. The one
exception is the empty text where a boolean is required.
-/

namespace EventSheet

theorem faultless_of_hasErrors {ctx : Context} {expected : SemanticType} {source : String}
    (h : (checkText ctx expected source).hasErrors = false) :
    (parse source).ok = true ∧
      Faultless ((parse source).root.check ctx expected).diagnostics := by
  have hf := any_isError_eq_false_iff.1 h
  simp only [checkText, faultless_append] at hf
  exact ⟨all_not_isError_iff.2 hf.1, hf.2⟩

/-- The tree of an accepted text is empty exactly when the text has no tokens. -/
theorem parse_root_cases {source : String} (hok : (parse source).ok = true) :
    (Token.lex source = [] ∧ ∃ s, (parse source).root = .empty s) ∨
      (Token.lex source ≠ [] ∧ ∃ c : Concrete, (parse source).root = c.expr) := by
  by_cases h : Token.lex source = []
  · refine .inl ⟨h, (Reader.start source).span, ?_⟩
    have hk : (Reader.start source).kind = .eof := Reader.kind_eq_eof h
    simp [parse, hk]
  · obtain ⟨c, -, -, hroot⟩ := exists_concrete_of_ok h hok
    exact .inr ⟨h, c, hroot⟩

/-- A text that is accepted resolves to a type that can stand where it is required, but for a text
without tokens where a boolean is required: that one has no value and no error either. -/
theorem checkText_fits {ctx : Context} {expected : SemanticType} {source : String}
    (h : (checkText ctx expected source).hasErrors = false) :
    (checkText ctx expected source).type.fits expected = false ↔
      expected = .boolean ∧ Token.lex source = [] := by
  obtain ⟨hok, hf⟩ := faultless_of_hasErrors h
  have htype : (checkText ctx expected source).type =
      ((parse source).root.check ctx expected).type := rfl
  rw [htype]
  rcases parse_root_cases hok with ⟨hnil, s, hroot⟩ | ⟨hne, c, hroot⟩
  · rw [hroot, Expr.check] at hf ⊢
    rw [checkEmpty_fits_iff hf]
    simp [hnil]
  · have hempty : ∀ s, (parse source).root ≠ .empty s := by
      intro s hs
      have hwritten := c.isWritten_expr
      rw [← hroot, hs] at hwritten
      exact nomatch hwritten
    simp [Expr.check_fits (fun _ => hempty) hf, hne]

/-- Nothing declared at all. -/
def Context.bare : Context :=
  ⟨⟨fun _ => none, fun _ _ => none, fun _ _ => none, fun _ => none⟩, .empty⟩

theorem checkText_fits_sum :
    (checkText .bare .number "1 + 2").hasErrors = false ∧
      ((checkText .bare .number "1 + 2").type.fits .number = false ↔
        SemanticType.number = .boolean ∧ Token.lex "1 + 2" = []) :=
  have h : (checkText .bare .number "1 + 2").hasErrors = false := by decide +kernel
  ⟨h, checkText_fits h⟩

/-- A text without tokens is accepted as a boolean, though it has no value. -/
theorem empty_text_accepted_as_boolean :
    (checkText .bare .boolean "").hasErrors = false ∧
      (checkText .bare .boolean "").type.fits .boolean = false := by
  decide +kernel

end EventSheet
