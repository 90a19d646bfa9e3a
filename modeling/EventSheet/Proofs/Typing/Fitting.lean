import EventSheet.Proofs.Typing.Calls
import EventSheet.Typing.Checker

/-!
# Types fit where they are required

What an expression without an error resolves to can stand where it is required: `Expr.check_fits`.
Every kind of node answers for itself, its parts are not looked at: what it resolves to fits, or it
reports an error. Only nothing at all does neither, where a boolean is required.
-/

namespace EventSheet

namespace SemanticType

@[simp] theorem fits_self (t : SemanticType) : t.fits t = true := by
  cases t <;> decide

@[simp] theorem fits_unknown (t : SemanticType) : t.fits .unknown = true := by
  cases t <;> decide

@[simp] theorem unknown_fits (t : SemanticType) : unknown.fits t = true := by
  cases t <;> decide

theorem fits_of_returnsFor {returned expected : SemanticType}
    (h : returned.returnsFor expected = true) : returned.fits expected = true := by
  revert h
  cases returned <;> cases expected <;> decide

theorem operationType_fits (left expected : SemanticType) :
    (operationType left expected).fits expected = true := by
  cases left <;> cases expected <;> decide

theorem number_fits_of_signProblem? {expected : SemanticType} {s : Span}
    (h : Faultless ((signProblem? expected).map (⟨·, s⟩ : Problem → Diagnostic)).toList) :
    number.fits expected = true := by
  revert h
  cases expected <;> simp [signProblem?, Problem.severity, fits]

end SemanticType

theorem checkLiteral_fits {found expected : SemanticType} {s : Span}
    (h : Faultless (checkLiteral found expected s).diagnostics) :
    (checkLiteral found expected s).type.fits expected = true := by
  unfold checkLiteral at h ⊢
  split at h
  next hfits => exact hfits
  next => simp [Problem.severity] at h

theorem checkIdentifier_fits {name : String} {expected : SemanticType} {s : Span} :
    (checkIdentifier name expected s).type.fits expected = true := by
  cases expected <;> simp [checkIdentifier]

theorem checkAccess_fits {inside : List Diagnostic} {expected : SemanticType} {s : Span} :
    (checkAccess inside expected s).type.fits expected = true := by
  cases expected <;> simp [checkAccess]

theorem checkEmpty_fits_iff {expected : SemanticType} {s : Span}
    (h : Faultless (checkEmpty expected s).diagnostics) :
    (checkEmpty expected s).type.fits expected = false ↔ expected = .boolean := by
  revert h
  cases expected <;> simp [checkEmpty, Problem.severity, SemanticType.fits]

/-- What an expression without an error resolves to can stand where it is required, unless nothing
is written where a boolean is required. -/
theorem Expr.check_fits {ctx : Context} {expected : SemanticType} {e : Expr}
    (he : expected = .boolean → ∀ s, e ≠ .empty s)
    (h : Faultless (e.check ctx expected).diagnostics) :
    (e.check ctx expected).type.fits expected = true := by
  cases e with
  | number _ s | string _ s =>
    rw [check] at h ⊢
    exact checkLiteral_fits h
  | identifier name s =>
    rw [check]
    exact checkIdentifier_fits
  | access name as s =>
    rw [check]
    exact checkAccess_fits
  | unary sign e s =>
    rw [check] at h ⊢
    split at h
    next => simp [Problem.severity] at h
    next hvalue =>
      rw [if_neg hvalue]
      exact SemanticType.number_fits_of_signProblem? (faultless_append.1 h).1
  | binary operator a b s =>
    rw [check] at h ⊢
    split at h
    next => simp [Problem.severity] at h
    next hvalue =>
      rw [if_neg hvalue]
      exact SemanticType.operationType_fits _ _
  | call callee arguments s =>
    rw [check] at h ⊢
    rcases ctx.resolve_cases expected callee arguments s with ⟨f, -, hf, heq⟩ | ⟨t, d, hd, heq, -⟩
    · rw [heq]
      exact SemanticType.fits_of_returnsFor hf
    · rw [heq] at h
      simp [hd] at h
  | empty s =>
    rw [check] at h ⊢
    cases hfits : (checkEmpty expected s).type.fits expected with
    | true => rfl
    | false => exact absurd rfl (he ((checkEmpty_fits_iff h).1 hfits) s)
  | error _ _ s =>
    rw [check]
    exact SemanticType.unknown_fits _

end EventSheet
