import EventSheet.Proofs.Typing.Telling
import EventSheet.Proofs.Typing.Visits

/-!
# Names that are not found

The name of a variable of an object or of a behavior belongs to an object. An argument is told of
its own name when no object is there or the object does not have it, and of nothing else of the
kind but what is found inside of it: `Argument.mem_diagnostics_iff`.
-/

namespace EventSheet

/-- Whether a code is about the object that a name belongs to. -/
def Code.isContextual : Code → Bool
  | missingObjectContext | invalidBehaviorName | undeclaredObjectVariable => true
  | _ => false

theorem Code.isForm_of_isContextual {code : Code} (h : code.isContextual = true) :
    code.isForm = false := by
  revert h
  cases code <;> decide

/-- What is told of the name in an argument when it is not found: no object is there for it to
belong to, or the object is not known to have it. -/
inductive Argument.Lost (a : Argument) (scope : Scope) (context : Option String) : Diagnostic → Prop
  | variableWithoutObject {name : String} : a.parameter.kind = objectVariableKind →
      a.expr.variable? = some name → context = none →
      Lost a scope context (a.problem .variableWithoutObject)
  | undeclaredVariable {name object : String} {declared : List String} :
      a.parameter.kind = objectVariableKind → a.expr.variable? = some name →
      context = some object → scope.objectVariables object = some declared → name ∉ declared →
      Lost a scope context (a.problem (.undeclaredVariable name object))
  | behaviorWithoutObject {name : String} :
      ParameterFamily.ofKind? a.parameter.kind = some .behavior →
      a.expr.identifier? = some name → context = none →
      Lost a scope context (a.problem .behaviorWithoutObject)
  | unknownBehavior {name object : String} :
      ParameterFamily.ofKind? a.parameter.kind = some .behavior →
      a.expr.identifier? = some name → context = some object →
      scope.behaviorType object name = none →
      Lost a scope context (a.problem (.unknownBehavior object name))

theorem Diagnostic.ne_of_isContextual {d own : Diagnostic} (hd : d.code.isContextual = true)
    (hown : own.code.isContextual = false) : d ≠ own := by
  rintro rfl
  exact nomatch hd.symm.trans hown

theorem ofKind?_objectVariableKind : ParameterFamily.ofKind? objectVariableKind = some .var := by
  decide +kernel

namespace Argument

variable {a : Argument} {scope : Scope} {context : Option String} {d : Diagnostic}

theorem Lost.span (h : a.Lost scope context d) : d.span = a.expr.span := by
  cases h <;> rfl

theorem Lost.isContextual (h : a.Lost scope context d) : d.code.isContextual = true := by
  cases h <;> rfl

/-- What is not found is the name of a variable or of a behavior. -/
theorem Lost.named (h : a.Lost scope context d) :
    (ParameterFamily.ofKind? a.parameter.kind = some .var ∧ a.expr.variable? ≠ none) ∨
      (ParameterFamily.ofKind? a.parameter.kind = some .behavior ∧ a.expr.identifier? ≠ none) := by
  cases h with
  | variableWithoutObject hkind hname | undeclaredVariable hkind hname =>
    rw [hkind, hname]
    exact .inl ⟨ofKind?_objectVariableKind, Option.some_ne_none _⟩
  | behaviorWithoutObject hfamily hname | unknownBehavior hfamily hname =>
    rw [hname]
    exact .inr ⟨hfamily, Option.some_ne_none _⟩

theorem not_lost (hvar : ParameterFamily.ofKind? a.parameter.kind ≠ some .var)
    (hbehavior : ParameterFamily.ofKind? a.parameter.kind ≠ some .behavior) :
    ¬ a.Lost scope context d :=
  fun h => h.named.elim (fun h => hvar h.1) fun h => hbehavior h.1

theorem mem_variableProblem?_iff {name : String} (hname : a.expr.variable? = some name)
    (hfamily : ParameterFamily.ofKind? a.parameter.kind = some .var) :
    d ∈ (a.variableProblem? scope context name).toList ↔ a.Lost scope context d := by
  constructor
  · intro h
    unfold variableProblem? at h
    split at h
    next hkind =>
      cases context with
      | none =>
        rw [List.mem_singleton.1 h]
        exact .variableWithoutObject hkind hname rfl
      | some object =>
        dsimp only at h
        split at h
        next declared hdeclared =>
          split at h
          next => exact nomatch h
          next hundeclared =>
            rw [List.mem_singleton.1 h]
            exact .undeclaredVariable hkind hname rfl hdeclared (by simpa using hundeclared)
        next => exact nomatch h
    next => exact nomatch h
  · intro h
    unfold variableProblem?
    cases h with
    | variableWithoutObject hkind _ hcontext =>
      rw [if_pos hkind, hcontext]
      exact .head _
    | undeclaredVariable hkind hvariable hcontext hdeclared hundeclared =>
      obtain rfl := Option.some.inj (hname.symm.trans hvariable)
      rw [if_pos hkind, hcontext]
      simp [hdeclared, hundeclared]
    | behaviorWithoutObject hbehavior | unknownBehavior hbehavior =>
      exact nomatch hfamily.symm.trans hbehavior

theorem mem_behavior_iff_of_bare {name : String} (hname : a.expr.identifier? = some name)
    (hfamily : ParameterFamily.ofKind? a.parameter.kind = some .behavior) :
    d ∈ a.behavior scope context ↔ a.Lost scope context d := by
  unfold behavior
  rw [hname]
  constructor
  · intro h
    cases context with
    | none =>
      rw [List.mem_singleton.1 h]
      exact .behaviorWithoutObject hfamily hname rfl
    | some object =>
      dsimp only at h
      split at h
      next hnone =>
        rw [List.mem_singleton.1 h]
        exact .unknownBehavior hfamily hname rfl hnone
      next => exact nomatch h
  · intro h
    cases h with
    | variableWithoutObject hkind | undeclaredVariable hkind =>
      rw [hkind, ofKind?_objectVariableKind] at hfamily
      exact nomatch hfamily
    | behaviorWithoutObject _ _ hcontext =>
      rw [hcontext]
      exact .head _
    | unknownBehavior _ hbare hcontext hnone =>
      obtain rfl := Option.some.inj (hname.symm.trans hbare)
      rw [hcontext]
      simp [hnone]

section

variable (hd : d.code.isContextual = true)

include hd

theorem mem_cons_nested_iff {p : Problem} (hp : p.code.isContextual = false) :
    d ∈ a.problem p :: a.nested ↔ d ∈ (a.check .unknown).diagnostics :=
  List.mem_cons.trans (or_iff_right (Diagnostic.ne_of_isContextual hd hp))

theorem mem_settle_iff (family : ParameterFamily) (v : Verdict) :
    d ∈ a.settle family v ↔ d ∈ v.diagnostics := by
  have hfilter := congrArg (d ∈ ·) (filter_settle (a := a) Code.isContextual rfl family v)
  simpa [List.mem_filter, hd] using hfilter

theorem mem_value_iff (family : ParameterFamily) :
    d ∈ a.value family ↔ d ∈ (a.check family.expectedType).diagnostics := by
  have hfilter := congrArg (d ∈ ·) (filter_value (a := a) Code.isContextual rfl rfl family)
  simpa [List.mem_filter, hd] using hfilter

theorem mem_variableRef_iff (hfamily : ParameterFamily.ofKind? a.parameter.kind = some .var) :
    d ∈ (a.variableRef scope context).diagnostics ↔
      a.Lost scope context d ∨
        d ∈ (a.check (if a.expr.variable?.isSome then .var else .unknown)).diagnostics := by
  have hsame : a.variableName? = a.expr.variable? := rfl
  rw [variableRef, hsame]
  cases hname : a.expr.variable? with
  | none =>
    have hfound : ¬ a.Lost scope context d := by
      intro h
      rcases h.named with ⟨-, hsome⟩ | ⟨hbehavior, -⟩
      · exact hsome hname
      · rw [hfamily] at hbehavior
        cases hbehavior
    rw [or_iff_right hfound]
    exact mem_cons_nested_iff hd rfl
  | some name =>
    rw [← mem_variableProblem?_iff hname hfamily]
    exact List.mem_append

theorem mem_behavior_iff (hfamily : ParameterFamily.ofKind? a.parameter.kind = some .behavior) :
    d ∈ a.behavior scope context ↔
      a.Lost scope context d ∨
        a.expr.identifier? = none ∧ d ∈ (a.check .unknown).diagnostics := by
  cases hname : a.expr.identifier? with
  | none =>
    have hfound : ¬ a.Lost scope context d := by
      intro h
      rcases h.named with ⟨hvar, -⟩ | ⟨-, hsome⟩
      · rw [hfamily] at hvar
        cases hvar
      · exact hsome hname
    rw [or_iff_right hfound, and_iff_right rfl, behavior, hname]
    exact mem_cons_nested_iff hd rfl
  | some name =>
    rw [mem_behavior_iff_of_bare hname hfamily, or_iff_left]
    exact fun h => Option.some_ne_none name h.1

/-- What is told of the objects of names in an argument: that its own name is not found, and what is
told inside of it. -/
theorem mem_diagnostics_iff :
    d ∈ a.diagnostics scope context ↔
      a.Lost scope context d ∨
        ∃ t, visitedAs a.parameter a.expr = some t ∧ d ∈ (a.check t).diagnostics := by
  -- Where no name of a variable or behavior belongs, only what is inside of the argument counts.
  have hother (hvar : ParameterFamily.ofKind? a.parameter.kind ≠ some .var)
      (hbehavior : ParameterFamily.ofKind? a.parameter.kind ≠ some .behavior) (t : SemanticType) :
      d ∈ (a.check t).diagnostics ↔
        a.Lost scope context d ∨ ∃ u, some t = some u ∧ d ∈ (a.check u).diagnostics := by
    simp [not_lost hvar hbehavior]
  unfold diagnostics visitedAs
  cases hfamily : ParameterFamily.ofKind? a.parameter.kind with
  | none =>
    rw [hfamily] at hother
    exact (mem_cons_nested_iff hd rfl).trans (hother nofun nofun .unknown)
  | some family =>
    rw [hfamily] at hother
    cases family with
    | number => exact (mem_value_iff hd .number).trans (hother nofun nofun .number)
    | string => exact (mem_value_iff hd .string).trans (hother nofun nofun .string)
    | object =>
      dsimp only
      rw [mem_settle_iff hd, ← hother nofun nofun, object]
      cases a.expr.identifier? with
      | none => exact mem_cons_nested_iff hd rfl
      | some name => rfl
    | var =>
      dsimp only
      rw [mem_settle_iff hd, mem_variableRef_iff hd hfamily]
      simp
    | behavior =>
      dsimp only
      rw [mem_behavior_iff hd hfamily]
      cases a.expr.identifier? <;> simp

end

theorem exists_lost_missingObjectContext_iff :
    (∃ d, a.Lost scope context d ∧ d.code = .missingObjectContext) ↔
      context = none ∧
        ((a.parameter.kind = objectVariableKind ∧ ∃ name, a.expr.variable? = some name) ∨
          (ParameterFamily.ofKind? a.parameter.kind = some .behavior ∧
            ∃ name, a.expr.identifier? = some name)) := by
  constructor
  · rintro ⟨d, hlost, hcode⟩
    cases hlost with
    | variableWithoutObject hkind hname hcontext =>
      exact ⟨hcontext, .inl ⟨hkind, _, hname⟩⟩
    | behaviorWithoutObject hfamily hname hcontext =>
      exact ⟨hcontext, .inr ⟨hfamily, _, hname⟩⟩
    | undeclaredVariable | unknownBehavior => exact nomatch hcode
  · rintro ⟨hcontext, ⟨hkind, name, hname⟩ | ⟨hfamily, name, hname⟩⟩
    · exact ⟨_, .variableWithoutObject hkind hname hcontext, rfl⟩
    · exact ⟨_, .behaviorWithoutObject hfamily hname hcontext, rfl⟩

theorem exists_lost_invalidBehaviorName_iff :
    (∃ d, a.Lost scope context d ∧ d.code = .invalidBehaviorName) ↔
      ParameterFamily.ofKind? a.parameter.kind = some .behavior ∧
        ∃ name object, a.expr.identifier? = some name ∧ context = some object ∧
          scope.behaviorType object name = none := by
  constructor
  · rintro ⟨d, hlost, hcode⟩
    cases hlost with
    | unknownBehavior hfamily hname hcontext hnone =>
      exact ⟨hfamily, _, _, hname, hcontext, hnone⟩
    | variableWithoutObject | behaviorWithoutObject | undeclaredVariable => exact nomatch hcode
  · rintro ⟨hfamily, name, object, hname, hcontext, hnone⟩
    exact ⟨_, .unknownBehavior hfamily hname hcontext hnone, rfl⟩

theorem exists_lost_undeclaredObjectVariable_iff :
    (∃ d, a.Lost scope context d ∧ d.code = .undeclaredObjectVariable) ↔
      a.parameter.kind = objectVariableKind ∧
        ∃ name object declared, a.expr.variable? = some name ∧ context = some object ∧
          scope.objectVariables object = some declared ∧ name ∉ declared := by
  constructor
  · rintro ⟨d, hlost, hcode⟩
    cases hlost with
    | undeclaredVariable hkind hname hcontext hdeclared hundeclared =>
      exact ⟨hkind, _, _, _, hname, hcontext, hdeclared, hundeclared⟩
    | variableWithoutObject | behaviorWithoutObject | unknownBehavior => exact nomatch hcode
  · rintro ⟨hkind, name, object, declared, hname, hcontext, hdeclared, hundeclared⟩
    exact ⟨_, .undeclaredVariable hkind hname hcontext hdeclared hundeclared, rfl⟩

end Argument

end EventSheet
