import EventSheet.Proofs.Faultless
import EventSheet.Typing.Call

/-!
# Calls that pass their own checks

What resolving a call says, as one statement: `Context.resolve_cases`. A call passes exactly when
its function is found, the object has what the function requires, the number of arguments is right
and the returned value can stand where the call is written; otherwise an error is reported.
-/

namespace EventSheet

/-- A call names a function that can be called in this way, its arguments left aside but for their
number. -/
structure Callable (ctx : Context) (callee : Callee) (arguments : List Expr) (f : Signature) :
    Prop where
  found : (ctx.lookup callee).signature = some f
  /-- The object it is called on lacks nothing that the function requires. -/
  capable : ∀ object capability, callee.object? = some object →
    f.requiredCapability = some capability →
    ctx.provider.lacks (ctx.lookup callee).objectType capability = false
  least : (f.countRange callee.impliedParameters).1 ≤ arguments.length
  most : arguments.length ≤ (f.countRange callee.impliedParameters).2

theorem Context.capabilityProblem?_eq_none_iff {ctx : Context} {callee : Callee} {type : String}
    {f : Signature} :
    ctx.capabilityProblem? callee type f = none ↔
      ∀ object capability, callee.object? = some object → f.requiredCapability = some capability →
        ctx.provider.lacks type capability = false := by
  unfold capabilityProblem?
  cases callee.object? <;> cases f.requiredCapability <;> simp

theorem countProblem?_eq_none_iff {callee : Callee} {f : Signature} {arguments : List Expr}
    {s : Span} :
    countProblem? callee f arguments s = none ↔
      (f.countRange callee.impliedParameters).1 ≤ arguments.length ∧
        arguments.length ≤ (f.countRange callee.impliedParameters).2 := by
  unfold countProblem?
  dsimp only
  split
  next h =>
    simp only [reduceCtorEq, false_iff]
    omega
  next h =>
    rw [← List.drop_eq_nil_iff]
    split
    next hdrop => simp only [hdrop, true_iff, and_true]; omega
    next hdrop => simp [hdrop]

/-- What can be called is found, capable and rightly supplied, and only that. -/
theorem callable_iff {ctx : Context} {callee : Callee} {arguments : List Expr} {f : Signature}
    (s : Span) :
    Callable ctx callee arguments f ↔
      (ctx.lookup callee).signature = some f ∧
        ctx.capabilityProblem? callee (ctx.lookup callee).objectType f = none ∧
        countProblem? callee f arguments s = none := by
  rw [Context.capabilityProblem?_eq_none_iff, countProblem?_eq_none_iff]
  exact ⟨fun h => ⟨h.found, h.capable, h.least, h.most⟩,
    fun h => ⟨h.1, h.2.1, h.2.2.1, h.2.2.2⟩⟩

theorem Context.capabilityProblem?_isError {ctx : Context} {callee : Callee} {type : String}
    {f : Signature} {d : Diagnostic} (h : ctx.capabilityProblem? callee type f = some d) :
    d.isError = true := by
  unfold capabilityProblem? at h
  split at h
  next =>
    split at h
    next => cases h; rfl
    next => cases h
  next => cases h

theorem countProblem?_isError {callee : Callee} {f : Signature} {arguments : List Expr} {s : Span}
    {d : Diagnostic} (h : countProblem? callee f arguments s = some d) : d.isError = true := by
  unfold countProblem? at h
  dsimp only at h
  split at h
  next => cases h; rfl
  next =>
    split at h
    next => cases h
    next => cases h; rfl

/-- A call resolves to its function, which returns a value that can stand in its place, or to an
error. -/
theorem Context.resolve_cases (ctx : Context) (expected : SemanticType) (callee : Callee)
    (arguments : List Expr) (s : Span) :
    (∃ f, Callable ctx callee arguments f ∧
        (SemanticType.ofKind f.returnKind).returnsFor expected = true ∧
        ctx.resolve expected callee arguments s = ⟨.ofKind f.returnKind, .ok f⟩) ∨
      (∃ type d, d.isError = true ∧ ctx.resolve expected callee arguments s = ⟨type, .error d⟩ ∧
        ∀ f, Callable ctx callee arguments f →
          (SemanticType.ofKind f.returnKind).returnsFor expected = false) := by
  simp only [callable_iff s]
  unfold resolve
  dsimp only
  cases hfound : (ctx.lookup callee).signature with
  | none => exact .inr ⟨_, _, rfl, rfl, fun f hf => nomatch hf.1⟩
  | some f =>
    dsimp only
    cases hcap : ctx.capabilityProblem? callee (ctx.lookup callee).objectType f with
    | some d =>
      refine .inr ⟨_, _, capabilityProblem?_isError hcap, rfl, ?_⟩
      rintro g ⟨hg, hgcap, -⟩
      cases hg
      exact nomatch hcap.symm.trans hgcap
    | none =>
      dsimp only
      cases hreturn : (SemanticType.ofKind f.returnKind).returnsFor expected with
      | false =>
        refine .inr ⟨_, _, rfl, rfl, ?_⟩
        rintro g ⟨hg, -⟩
        cases hg
        exact hreturn
      | true =>
        cases hcount : countProblem? callee f arguments s with
        | some d =>
          refine .inr ⟨_, _, countProblem?_isError hcount, rfl, ?_⟩
          rintro g ⟨hg, -, hgcount⟩
          cases hg
          exact nomatch hcount.symm.trans hgcount
        | none => exact .inl ⟨f, ⟨rfl, hcap, hcount⟩, hreturn, rfl⟩

/-- A call has one function. -/
theorem Callable.unique {ctx : Context} {callee : Callee} {arguments : List Expr} {f g : Signature}
    (hf : Callable ctx callee arguments f) (hg : Callable ctx callee arguments g) : f = g :=
  Option.some.inj (hf.found.symm.trans hg.found)

/-- A call passes its checks when it can be called and what it returns can stand in its place. -/
theorem Context.outcome_eq_ok_iff {ctx : Context} {expected : SemanticType} {callee : Callee}
    {arguments : List Expr} {s : Span} {f : Signature} :
    (ctx.resolve expected callee arguments s).outcome = .ok f ↔
      Callable ctx callee arguments f ∧
        (SemanticType.ofKind f.returnKind).returnsFor expected = true := by
  rcases ctx.resolve_cases expected callee arguments s with
    ⟨g, hg, hreturn, heq⟩ | ⟨type, d, -, heq, hreturn⟩
  · rw [heq]
    constructor
    · rintro ⟨⟩
      exact ⟨hg, hreturn⟩
    · rintro ⟨hf, -⟩
      rw [hg.unique hf]
  · rw [heq]
    constructor
    · rintro ⟨⟩
    · rintro ⟨hf, hpass⟩
      exact nomatch hpass.symm.trans (hreturn f hf)

end EventSheet
