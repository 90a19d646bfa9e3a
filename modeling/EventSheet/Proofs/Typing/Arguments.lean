import EventSheet.Proofs.Typing.Fitting

/-!
# Arguments without an error

When an argument is accepted, family by family. Telling a type error about the parameter keeps it an
error, and the last look at the type finds nothing where the check of the argument found nothing, so
that a value is accepted exactly when its check is.
-/

namespace EventSheet

namespace Argument

variable {a : Argument} {family : ParameterFamily}

/-- A type error that is told about the parameter was one before. -/
theorem not_faultless_of_attribute? {ds es : List Diagnostic} (h : a.attribute? ds = some es) :
    ¬ Faultless ds ∧ ¬ Faultless es := by
  induction ds generalizing es with
  | nil => exact nomatch h
  | cons d ds ih =>
    rw [attribute?] at h
    split at h
    next hd =>
      cases h
      have herr : d.isError = true := by
        rw [Diagnostic.isError, Diagnostic.severity, Problem.severity_of_typeError hd.1]
        rfl
      simp [herr, Problem.severity, Problem.severity_of_typeError hd.1]
    next =>
      obtain ⟨fs, hfs, rfl⟩ := Option.map_eq_some_iff.1 h
      have hih := ih hfs
      simp only [faultless_cons, not_and]
      exact ⟨fun _ => hih.1, fun _ => hih.2⟩

theorem settle_faultless_iff {v : Verdict}
    (hfit : Faultless v.diagnostics → v.type.fits family.expectedType = true) :
    Faultless (a.settle family v) ↔ Faultless v.diagnostics := by
  unfold settle
  split
  next h =>
    simp only [Bool.and_eq_true, List.isEmpty_iff, Bool.not_eq_true'] at h
    have hnil : Faultless v.diagnostics := by rw [h.1]; exact faultless_nil
    exact absurd (hfit hnil) (by rw [h.2]; decide)
  next => exact Iff.rfl

theorem value_faultless_iff
    (hfit : Faultless (a.check family.expectedType).diagnostics →
      (a.check family.expectedType).type.fits family.expectedType = true) :
    Faultless (a.value family) ↔ Faultless (a.check family.expectedType).diagnostics := by
  unfold value
  dsimp only
  split
  next ds h =>
    have hnot := not_faultless_of_attribute? h
    exact iff_of_false hnot.2 hnot.1
  next => exact settle_faultless_iff hfit

theorem variableProblem?_faultless_iff {scope : Scope} {context : Option String} {name : String} :
    Faultless (a.variableProblem? scope context name).toList ↔
      (a.parameter.kind = objectVariableKind → context.isSome) := by
  unfold variableProblem?
  split
  next h =>
    cases context with
    | none => simp [h, problem, Problem.severity]
    | some object =>
      dsimp only
      split
      · split <;> simp [problem, Problem.severity]
      · simp
  next h => simp [h]

theorem behavior_faultless_iff {scope : Scope} {context : Option String} :
    Faultless (a.behavior scope context) ↔
      ∃ name object, a.expr.identifier? = some name ∧ context = some object ∧
        (scope.behaviorType object name).isSome := by
  unfold behavior
  cases a.expr.identifier? with
  | none => simp [problem, Problem.severity]
  | some name =>
    cases context with
    | none => simp [problem, Problem.severity]
    | some object =>
      dsimp only
      cases hb : scope.behaviorType object name <;> simp [hb, problem, Problem.severity]

end Argument

end EventSheet
