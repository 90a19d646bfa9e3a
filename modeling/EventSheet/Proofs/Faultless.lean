import EventSheet.Diagnostic.Basic

/-!
# Diagnostics that block nothing

A list of diagnostics is faultless when it holds warnings only. All stages add what they find to
such a list, so that it is taken apart where they put it together.
-/

namespace EventSheet

/-- Whether none of some diagnostics blocks the expression. -/
def Faultless (ds : List Diagnostic) : Prop := ∀ d ∈ ds, d.isError = false

@[simp] theorem faultless_nil : Faultless [] := nofun

@[simp] theorem faultless_cons {d : Diagnostic} {ds : List Diagnostic} :
    Faultless (d :: ds) ↔ d.isError = false ∧ Faultless ds := by
  simp [Faultless]

@[simp] theorem faultless_append {ds es : List Diagnostic} :
    Faultless (ds ++ es) ↔ Faultless ds ∧ Faultless es := by
  simp only [Faultless, List.mem_append, or_imp, forall_and]

theorem any_isError_eq_false_iff {ds : List Diagnostic} :
    ds.any (·.isError) = false ↔ Faultless ds := by
  simp [Faultless]

theorem all_not_isError_iff {ds : List Diagnostic} :
    ds.all (!·.isError) = true ↔ Faultless ds := by
  simp [Faultless]

/-- A problem that only warns has one of two codes. -/
@[simp] theorem isError_eq_false_iff {p : Problem} {s : Span} :
    Diagnostic.isError ⟨p, s⟩ = false ↔ p.severity = .warning := by
  rw [Diagnostic.isError, Diagnostic.severity]
  cases p.severity <;> decide

end EventSheet
