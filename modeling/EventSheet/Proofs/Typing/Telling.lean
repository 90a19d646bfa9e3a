import EventSheet.Proofs.Syntax.Nodes
import EventSheet.Proofs.Typing.Fitting

/-!
# What checking tells

Every problem that checking finds is told at a node: at the whole of it, at the object that a call
is made on, or at the arguments of a call that are too many. What is told of an argument as a whole
is told about its parameter, and never a type error: those that cover an argument are reworded. All
of it is about the meaning of the expression and nothing about its form, and the last look at the
type of an argument has nothing to add: `Expr.meant_of_mem_check`.
-/

namespace EventSheet

/-- A problem that checking tells: one of meaning, and not that an argument has a type that its
parameter does not take although nothing was found in it. Only type errors are told about a
parameter. -/
structure Problem.Meant (problem : Problem) : Prop where
  meaning : problem.code.isForm = false
  explained : ∀ position kind expected found,
    problem ≠ .parameterMismatch position kind expected found
  attributed : ∀ position kind cause,
    problem = .inParameter position kind cause → cause.code = .typeError

/-- Only problems of form point at a second place. -/
theorem Problem.Meant.note? {problem : Problem} (h : problem.Meant) : problem.note? = none := by
  cases problem with
  | unmatchedParenthesis | unterminatedParameters | unterminatedIndex => exact nomatch h.meaning
  | inParameter _ _ cause =>
    have hcause : cause.note? = none := note?_of_typeError (h.attributed _ _ _ rfl)
    exact hcause
  | _ => rfl

/-- A problem that checking tells only warns when it is that a variable is not declared. -/
theorem Problem.Meant.severity_eq_warning_iff {problem : Problem} (h : problem.Meant) :
    problem.severity = .warning ↔ problem.code = .undeclaredObjectVariable := by
  cases problem with
  | redundantParentheses => exact nomatch h.meaning
  | inParameter _ _ cause =>
    have hcause : cause.code = .typeError := h.attributed _ _ _ rfl
    simp [severity, code, severity_of_typeError hcause]
  | _ => simp [severity, code]

/-! ### Arguments -/

/-- A diagnostic is about the argument as a whole, and no type error, or was found inside of it. -/
inductive Argument.Tells (a : Argument) : Diagnostic → Prop
  | whole {problem : Problem} : problem.Meant → problem.code ≠ .typeError →
      Tells a (a.problem problem)
  | inside {expected : SemanticType} {d : Diagnostic} : d ∈ (a.check expected).diagnostics →
      Tells a d

/-- Where nothing is found in an argument, it has a type that its parameter takes. -/
def Argument.Fits (a : Argument) : Prop :=
  ∀ family : ParameterFamily, (a.check family.expectedType).diagnostics = [] →
    (a.check family.expectedType).type.fits family.expectedType = true

namespace Argument

variable {a : Argument} {d : Diagnostic}

/-- Whatever is checked as an expression fits where it is required. -/
theorem fits_of_check {ctx : Context} (h : a.check = fun expected => a.expr.check ctx expected) :
    a.Fits := by
  intro family hnil
  rw [h] at hnil ⊢
  apply Expr.check_fits
  · cases family <;> nofun
  · rw [hnil]
    exact faultless_nil

section

variable (keep : Code → Bool) (hmismatch : keep .parameterTypeMismatch = false)

include hmismatch

theorem filter_mismatch {d : Diagnostic} {ds : List Diagnostic}
    (h : d.code = .parameterTypeMismatch) :
    (d :: ds).filter (keep ·.code) = ds.filter (keep ·.code) := by
  rw [List.filter_cons, h, hmismatch]
  rfl

/-- Telling a type error about the parameter leaves what has other codes as it is. -/
theorem filter_attribute? (htype : keep .typeError = false) {ds es : List Diagnostic}
    (h : a.attribute? ds = some es) : es.filter (keep ·.code) = ds.filter (keep ·.code) := by
  induction ds generalizing es with
  | nil => exact nomatch h
  | cons d ds ih =>
    unfold attribute? at h
    split at h
    next hcover =>
      cases h
      rw [filter_mismatch keep hmismatch rfl, List.filter_cons, hcover.1, htype]
      rfl
    next =>
      obtain ⟨fs, hfs, rfl⟩ := Option.map_eq_some_iff.1 h
      rw [List.filter_cons, List.filter_cons, ih hfs]

theorem filter_settle (family : ParameterFamily) (v : Verdict) :
    (a.settle family v).filter (keep ·.code) = v.diagnostics.filter (keep ·.code) := by
  unfold settle
  split
  next h =>
    rw [Bool.and_eq_true, List.isEmpty_iff] at h
    rw [h.1, filter_mismatch keep hmismatch rfl]
  next => rfl

/-- Of an argument that is a number or a text, whatever is neither a type error nor a mismatch is
found as when it stands alone. -/
theorem filter_value (htype : keep .typeError = false) (family : ParameterFamily) :
    (a.value family).filter (keep ·.code) =
      (a.check family.expectedType).diagnostics.filter (keep ·.code) := by
  unfold value
  dsimp only
  split
  next hds => exact filter_attribute? keep hmismatch htype hds
  next => exact filter_settle keep hmismatch family _

end

/-- The last look at the type finds nothing where the type fits. -/
theorem settle_eq {family : ParameterFamily} {v : Verdict}
    (h : v.diagnostics = [] → v.type.fits family.expectedType = true) :
    a.settle family v = v.diagnostics := by
  unfold settle
  split
  next hsettle =>
    rw [Bool.and_eq_true, List.isEmpty_iff, Bool.not_eq_true'] at hsettle
    exact nomatch (h hsettle.1).symm.trans hsettle.2
  next => rfl

/-- The last look at an argument that is a number or a text finds nothing. -/
theorem value_eq (hfits : a.Fits) (family : ParameterFamily) :
    a.value family = (a.attribute? (a.check family.expectedType).diagnostics).getD
      (a.check family.expectedType).diagnostics := by
  unfold value
  dsimp only
  split
  next hds => rw [hds, Option.getD_some]
  next hnone => rw [hnone, Option.getD_none, settle_eq (hfits family)]

/-- The last look at an argument that names an object finds nothing. -/
theorem settle_object (hfits : a.Fits) : a.settle .object a.object = a.object.diagnostics := by
  apply settle_eq
  unfold object
  split
  · exact hfits .object
  · exact nofun

/-- The last look at an argument that names a variable finds nothing. -/
theorem settle_variableRef (hfits : a.Fits) (scope : Scope) (context : Option String) :
    a.settle .var (a.variableRef scope context) = (a.variableRef scope context).diagnostics := by
  apply settle_eq
  unfold variableRef
  split
  · intro hnil
    exact hfits .var (List.append_eq_nil_iff.1 hnil).2
  · exact nofun

theorem tells_of_mem_nested (h : d ∈ a.nested) : a.Tells d := .inside h

theorem tells_of_mem_attribute? {ds es : List Diagnostic} (hds : ∀ d ∈ ds, a.Tells d)
    (h : a.attribute? ds = some es) (hd : d ∈ es) : a.Tells d := by
  induction ds generalizing es with
  | nil => exact nomatch h
  | cons e ds ih =>
    have hrest : ∀ d ∈ ds, a.Tells d := fun d hd => hds d (.tail _ hd)
    unfold attribute? at h
    split at h
    next hcover =>
      cases h
      rcases List.mem_cons.1 hd with rfl | hd
      · rw [hcover.2]
        refine .whole ⟨rfl, nofun, ?_⟩ nofun
        rintro _ _ _ ⟨⟩
        exact hcover.1
      · exact hrest d hd
    next =>
      obtain ⟨es', hes', rfl⟩ := Option.map_eq_some_iff.1 h
      rcases List.mem_cons.1 hd with rfl | hd
      · exact hds d (.head _)
      · exact ih hrest hes' hd

theorem tells_of_mem_value {family : ParameterFamily} (hfits : a.Fits) (h : d ∈ a.value family) :
    a.Tells d := by
  have hinside : ∀ d ∈ (a.check family.expectedType).diagnostics, a.Tells d :=
    fun d hd => .inside hd
  rw [value_eq hfits] at h
  cases hds : a.attribute? (a.check family.expectedType).diagnostics with
  | some ds =>
    rw [hds] at h
    exact tells_of_mem_attribute? hinside hds h
  | none =>
    rw [hds] at h
    exact hinside d h

theorem tells_of_mem_object (h : d ∈ a.object.diagnostics) : a.Tells d := by
  unfold object at h
  split at h
  · exact .inside h
  · rcases List.mem_cons.1 h with rfl | h
    · exact .whole ⟨rfl, nofun, nofun⟩ nofun
    · exact tells_of_mem_nested h

theorem tells_of_mem_variableRef {scope : Scope} {context : Option String}
    (h : d ∈ (a.variableRef scope context).diagnostics) : a.Tells d := by
  unfold variableRef at h
  split at h
  next name _ =>
    rcases List.mem_append.1 h with h | h
    · unfold variableProblem? at h
      repeat' split at h
      all_goals simp only [Option.toList_none, Option.toList_some, List.not_mem_nil,
        List.mem_singleton] at h
      all_goals
        rw [h]
        exact .whole ⟨rfl, nofun, nofun⟩ nofun
    · exact .inside h
  next =>
    rcases List.mem_cons.1 h with rfl | h
    · exact .whole ⟨rfl, nofun, nofun⟩ nofun
    · exact tells_of_mem_nested h

theorem tells_of_mem_behavior {scope : Scope} {context : Option String}
    (h : d ∈ a.behavior scope context) : a.Tells d := by
  unfold behavior at h
  split at h
  · rcases List.mem_cons.1 h with rfl | h
    · exact .whole ⟨rfl, nofun, nofun⟩ nofun
    · exact tells_of_mem_nested h
  · repeat' split at h
    · rw [List.mem_singleton.1 h]
      exact .whole ⟨rfl, nofun, nofun⟩ nofun
    · rw [List.mem_singleton.1 h]
      exact .whole ⟨rfl, nofun, nofun⟩ nofun
    · exact nomatch h

/-- What is found in an argument is about the argument as a whole or was found inside of it. -/
theorem tells_of_mem_diagnostics {scope : Scope} {context : Option String} (hfits : a.Fits)
    (h : d ∈ a.diagnostics scope context) : a.Tells d := by
  unfold diagnostics at h
  split at h
  · rcases List.mem_cons.1 h with rfl | h
    · exact .whole ⟨rfl, nofun, nofun⟩ nofun
    · exact tells_of_mem_nested h
  · exact tells_of_mem_value hfits h
  · exact tells_of_mem_value hfits h
  · rw [settle_object hfits] at h
    exact tells_of_mem_object h
  · rw [settle_variableRef hfits] at h
    exact tells_of_mem_variableRef h
  · exact tells_of_mem_behavior h

end Argument

/-! ### Nodes -/

/-- A diagnostic is told at a node: at the node itself, at the object of a call, at the arguments
that are too many, at an argument as a whole or below the node. -/
inductive Expr.Tells (ctx : Context) (e : Expr) : Diagnostic → Prop
  | self {problem : Problem} : problem.Meant → Tells ctx e ⟨problem, e.span⟩
  | object {capability : String} {name : Name} : name ∈ e.names →
      Tells ctx e ⟨.unsupportedCapability capability, name.span⟩
  | surplus {least most : Nat} {extra : Expr} {rest : List Expr} :
      (∀ c ∈ extra :: rest, c ∈ e.children) →
      Tells ctx e ⟨.tooManyParameters least most, argumentsSpan extra rest⟩
  | argument {c : Expr} {problem : Problem} : c ∈ e.children → problem.Meant →
      problem.code ≠ .typeError → Tells ctx e ⟨problem, c.span⟩
  | child {c : Expr} {expected : SemanticType} {d : Diagnostic} : c ∈ e.children →
      d ∈ (c.check ctx expected).diagnostics → Tells ctx e d

section

variable {ctx : Context} {d : Diagnostic}

theorem Callee.object_mem_names {callee : Callee} {object : Name}
    (h : callee.object? = some object) : object ∈ callee.names := by
  cases callee with
  | free => exact nomatch h
  | onObject | onBehavior =>
    cases h
    exact .head _

theorem Context.eq_of_capabilityProblem? {callee : Callee} {type : String} {f : Signature}
    (h : ctx.capabilityProblem? callee type f = some d) :
    ∃ object capability, callee.object? = some object ∧
      d = ⟨.unsupportedCapability capability, object.span⟩ := by
  unfold capabilityProblem? at h
  split at h
  next object capability hobject _ =>
    split at h
    · cases h
      exact ⟨object, capability, hobject, rfl⟩
    · exact nomatch h
  next => exact nomatch h

theorem eq_of_countProblem? {callee : Callee} {f : Signature} {es : List Expr} {s : Span}
    (h : countProblem? callee f es s = some d) :
    (∃ least most, d = ⟨.tooFewParameters least most, s⟩) ∨
      ∃ least most extra rest, es.drop most = extra :: rest ∧
        d = ⟨.tooManyParameters least most, argumentsSpan extra rest⟩ := by
  unfold countProblem? at h
  dsimp only at h
  split at h
  · cases h
    exact .inl ⟨_, _, rfl⟩
  · split at h
    · cases h
    next extra rest hextra =>
      cases h
      exact .inr ⟨_, _, extra, rest, hextra, rfl⟩

/-- What stops a call is told at the call, at its object or at the arguments that are too many. -/
theorem Context.resolve_tells {expected : SemanticType} {callee : Callee} {es : List Expr}
    {s : Span} (h : (ctx.resolve expected callee es s).outcome = .error d) :
    (Expr.call callee es s).Tells ctx d := by
  have hself : ∀ problem : Problem, problem.Meant →
      (Expr.call callee es s).Tells ctx ⟨problem, s⟩ := fun _ hmeant => .self hmeant
  unfold resolve at h
  dsimp only at h
  repeat' split at h
  · cases h
    exact hself _ ⟨rfl, nofun, nofun⟩
  next problem hcapable =>
    cases h
    obtain ⟨object, capability, hobject, rfl⟩ := eq_of_capabilityProblem? hcapable
    exact .object (Callee.object_mem_names hobject)
  next problem hcount =>
    cases h
    obtain ⟨least, most, rfl⟩ | ⟨least, most, extra, rest, hextra, rfl⟩ :=
      eq_of_countProblem? hcount
    · exact hself _ ⟨rfl, nofun, nofun⟩
    · refine .surplus ?_
      intro c hc
      rw [← hextra] at hc
      exact List.mem_of_mem_drop hc
  · exact nomatch h
  · cases h
    exact hself _ ⟨rfl, nofun, nofun⟩

theorem checkIndices_eq_flatMap (ctx : Context) (as : List Accessor) :
    checkIndices ctx as =
      (indices as).flatMap fun c => (c.check ctx .numberOrString).diagnostics := by
  induction as with
  | nil => simp [checkIndices, indices]
  | cons a as ih =>
    cases a with
    | child name s => rw [checkIndices, ih, indices]
    | index e s => rw [checkIndices, ih, indices, List.flatMap_cons]

theorem checkLoosely_eq_flatMap (ctx : Context) (es : List Expr) :
    checkLoosely ctx es = es.flatMap fun c => (c.check ctx .unknown).diagnostics := by
  induction es with
  | nil => simp [checkLoosely]
  | cons e es ih => rw [checkLoosely, ih, List.flatMap_cons]

theorem mem_checkIndices_iff {as : List Accessor} :
    d ∈ checkIndices ctx as ↔ ∃ c ∈ indices as, d ∈ (c.check ctx .numberOrString).diagnostics := by
  rw [checkIndices_eq_flatMap, List.mem_flatMap]

theorem mem_checkLoosely_iff {es : List Expr} :
    d ∈ checkLoosely ctx es ↔ ∃ c ∈ es, d ∈ (c.check ctx .unknown).diagnostics := by
  rw [checkLoosely_eq_flatMap, List.mem_flatMap]

/-- What is found in the arguments of a call is found in one of them. -/
theorem exists_tells_of_mem_checkArguments {es : List Expr} {ps : List Parameter}
    {context : Option String} {position : Nat} (h : d ∈ checkArguments ctx context position es ps) :
    ∃ a : Argument, a.expr ∈ es ∧ (a.check = fun expected => a.expr.check ctx expected) ∧
      a.Tells d := by
  induction es generalizing ps context position with
  | nil => simp [checkArguments] at h
  | cons e es ih =>
    cases ps with
    | nil => simp [checkArguments] at h
    | cons p ps =>
      rw [checkArguments] at h
      rcases List.mem_append.1 h with h | h
      · exact ⟨_, .head _, rfl, Argument.tells_of_mem_diagnostics (Argument.fits_of_check rfl) h⟩
      · obtain ⟨a, ha, hcheck, htells⟩ := ih h
        exact ⟨a, .tail _ ha, hcheck, htells⟩

theorem eq_of_mem_checkLiteral {found expected : SemanticType} {s : Span}
    (h : d ∈ (checkLiteral found expected s).diagnostics) :
    d = ⟨.misplacedLiteral found expected, s⟩ := by
  unfold checkLiteral at h
  dsimp only at h
  split at h
  · exact nomatch h
  · exact List.mem_singleton.1 h

theorem eq_of_mem_checkIdentifier {name : String} {expected : SemanticType} {s : Span}
    (h : d ∈ (checkIdentifier name expected s).diagnostics) :
    d = ⟨.misplacedIdentifier name expected, s⟩ := by
  unfold checkIdentifier at h
  split at h
  · cases h
  · cases h
  · cases h
  · exact List.mem_singleton.1 h

theorem eq_or_mem_of_mem_checkAccess {inside : List Diagnostic} {expected : SemanticType} {s : Span}
    (h : d ∈ (checkAccess inside expected s).diagnostics) :
    d ∈ inside ∨ d = ⟨.misplacedVariable expected, s⟩ := by
  unfold checkAccess at h
  split at h
  · exact .inl h
  · exact .inl h
  · rcases List.mem_append.1 h with h | h
    · exact .inl h
    · exact .inr (List.mem_singleton.1 h)

theorem eq_of_mem_checkEmpty {expected : SemanticType} {s : Span}
    (h : d ∈ (checkEmpty expected s).diagnostics) : d = ⟨.emptyExpression expected, s⟩ := by
  cases expected with
  | number | string | numberOrString | object | var => exact List.mem_singleton.1 h
  | boolean | unknown | empty => exact nomatch h

theorem meant_of_signProblem? {expected : SemanticType} {problem : Problem}
    (h : signProblem? expected = some problem) : problem.Meant := by
  unfold signProblem? at h
  repeat' split at h
  · cases h
    exact ⟨rfl, nofun, nofun⟩
  · exact nomatch h
  · cases h
    exact ⟨rfl, nofun, nofun⟩

theorem meant_of_operatorProblem? {operator : Operator} {operation : SemanticType}
    {problem : Problem} (h : operatorProblem? operator operation = some problem) :
    problem.Meant := by
  unfold operatorProblem? at h
  split at h
  · cases h
    exact ⟨rfl, nofun, nofun⟩
  · exact nomatch h

/-- What an operation tells of itself comes as a problem or not at all. -/
theorem exists_of_mem_toList {problem? : Option Problem} {s : Span}
    (h : d ∈ (problem?.map (Diagnostic.mk · s)).toList) :
    ∃ problem, problem? = some problem ∧ d = ⟨problem, s⟩ := by
  cases problem? with
  | none => exact nomatch h
  | some problem => exact ⟨problem, rfl, List.mem_singleton.1 h⟩

theorem Expr.tells_of_mem_check_unary {sign : Sign} {a : Expr} {s : Span} {expected : SemanticType}
    (h : d ∈ ((unary sign a s).check ctx expected).diagnostics) : (unary sign a s).Tells ctx d := by
  have hself : ∀ problem : Problem, problem.Meant →
      (unary sign a s).Tells ctx ⟨problem, s⟩ := fun _ hmeant => .self hmeant
  rw [check] at h
  split at h
  · rcases List.mem_cons.1 h with rfl | h
    · exact hself _ ⟨rfl, nofun, nofun⟩
    · exact .child (.head _) h
  · rcases List.mem_append.1 h with h | h
    · obtain ⟨problem, hproblem, rfl⟩ := exists_of_mem_toList h
      exact hself problem (meant_of_signProblem? hproblem)
    · exact .child (.head _) h

theorem Expr.tells_of_mem_check_binary {operator : Operator} {a b : Expr} {s : Span}
    {expected : SemanticType} (h : d ∈ ((binary operator a b s).check ctx expected).diagnostics) :
    (binary operator a b s).Tells ctx d := by
  have hself : ∀ problem : Problem, problem.Meant →
      (binary operator a b s).Tells ctx ⟨problem, s⟩ := fun _ hmeant => .self hmeant
  have hleft : a ∈ (binary operator a b s).children := .head _
  have hright : b ∈ (binary operator a b s).children := .tail _ (.head _)
  rw [check] at h
  split at h
  · rcases List.mem_cons.1 h with rfl | h
    · exact hself _ ⟨rfl, nofun, nofun⟩
    rcases List.mem_append.1 h with h | h
    · exact .child hleft h
    · exact .child hright h
  · rcases List.mem_append.1 h with h | h
    · exact .child hleft h
    rcases List.mem_append.1 h with h | h
    · obtain ⟨problem, hproblem, rfl⟩ := exists_of_mem_toList h
      exact hself problem (meant_of_operatorProblem? hproblem)
    · exact .child hright h

theorem Expr.tells_of_mem_check_call {callee : Callee} {es : List Expr} {s : Span}
    {expected : SemanticType} (h : d ∈ ((call callee es s).check ctx expected).diagnostics) :
    (call callee es s).Tells ctx d := by
  rw [check] at h
  split at h
  next problem hproblem =>
    rcases List.mem_cons.1 h with rfl | h
    · exact Context.resolve_tells hproblem
    · obtain ⟨c, hc, h⟩ := mem_checkLoosely_iff.1 h
      exact .child hc h
  next =>
    obtain ⟨a, ha, hcheck, htells⟩ := exists_tells_of_mem_checkArguments h
    cases htells with
    | whole hmeant hcode => exact .argument ha hmeant hcode
    | inside h =>
      rw [hcheck] at h
      exact .child ha h

/-- Whatever checking a node finds is told at the node. -/
theorem Expr.tells_of_mem_check {e : Expr} {expected : SemanticType}
    (h : d ∈ (e.check ctx expected).diagnostics) : e.Tells ctx d := by
  have hself : ∀ problem : Problem, problem.Meant → e.Tells ctx ⟨problem, e.span⟩ :=
    fun _ hmeant => .self hmeant
  cases e with
  | number text s | string value s =>
    rw [check] at h
    rw [eq_of_mem_checkLiteral h]
    exact hself _ ⟨rfl, nofun, nofun⟩
  | identifier name s =>
    rw [check] at h
    rw [eq_of_mem_checkIdentifier h]
    exact hself _ ⟨rfl, nofun, nofun⟩
  | access name as s =>
    rw [check] at h
    rcases eq_or_mem_of_mem_checkAccess h with h | rfl
    · obtain ⟨c, hc, h⟩ := mem_checkIndices_iff.1 h
      exact .child hc h
    · exact hself _ ⟨rfl, nofun, nofun⟩
  | unary sign a s => exact tells_of_mem_check_unary h
  | binary operator a b s => exact tells_of_mem_check_binary h
  | call callee es s => exact tells_of_mem_check_call h
  | empty s =>
    rw [check] at h
    rw [eq_of_mem_checkEmpty h]
    exact hself _ ⟨rfl, nofun, nofun⟩
  | error reason text s =>
    rw [check] at h
    cases h

/-- What checking finds is about the meaning of the expression, and never only that the type of an
argument does not fit. -/
theorem Expr.meant_of_mem_check {e : Expr} {expected : SemanticType}
    (h : d ∈ (e.check ctx expected).diagnostics) : d.problem.Meant := by
  induction e using Expr.induction_children generalizing expected with
  | step e ih =>
    cases tells_of_mem_check h with
    | self hmeant => exact hmeant
    | object | surplus => exact ⟨rfl, nofun, nofun⟩
    | argument _ hmeant => exact hmeant
    | child hc h => exact ih _ hc h

/-- A type error is told at a node of the tree. -/
theorem Expr.exists_node_of_typeError {e : Expr} {expected : SemanticType}
    (h : d ∈ (e.check ctx expected).diagnostics) (hcode : d.code = .typeError) :
    ∃ n ∈ e.nodes, d.span = n.span := by
  induction e using Expr.induction_children generalizing expected with
  | step e ih =>
    cases tells_of_mem_check h with
    | self => exact ⟨e, .head _, rfl⟩
    | object => exact nomatch hcode
    | surplus => exact nomatch hcode
    | argument _ _ hother => exact absurd hcode hother
    | child hc h =>
      obtain ⟨n, hn, hspan⟩ := ih _ hc h
      exact ⟨n, mem_nodes_of_child hc hn, hspan⟩

end

end EventSheet
