import EventSheet.Proofs.Syntax.Nodes
import EventSheet.Proofs.Typing.Arguments
import EventSheet.Proofs.Typing.Judgement

/-!
# Checking and typing agree

Checking pushes the required type down the tree, the judgement builds types up from the leaves. They
agree: where a number is required no error is found exactly in the numbers, and so for texts; where
either may stand no error is found exactly in what has a type, and it resolves to that type. The
three are proved together, because an operator between loose operands lets the left one decide what
the right one is checked against.
-/

namespace EventSheet

/-- Whether nothing in a tree stands for text that could not be read. -/
def Expr.Legible (e : Expr) : Prop := ∀ n ∈ e.nodes, n.isError = false

/-- Checking an expression finds no error exactly where the judgement gives it the required type. -/
structure Agrees (ctx : Context) (e : Expr) : Prop where
  number : Faultless (e.check ctx .number).diagnostics ↔
    HasType ctx (.ofScope ctx.scope) e .number
  string : Faultless (e.check ctx .string).diagnostics ↔
    HasType ctx (.ofScope ctx.scope) e .string
  /-- Where a number or a text may stand the type that the expression has is found as well. -/
  either : ∀ t, Faultless (e.check ctx .numberOrString).diagnostics ∧
      (e.check ctx .numberOrString).type = t ↔
    HasType ctx (.ofScope ctx.scope) e t

theorem HasType.isValue {ctx : Context} {naming : Naming} {e : Expr} {t : SemanticType}
    (h : HasType ctx naming e t) : t.isValue = true := by
  cases h with
  | call _ hvalue _ => exact hvalue
  | _ => rfl

/-- A type that the judgement gives is one of three. -/
theorem HasType.cases_value {ctx : Context} {naming : Naming} {e : Expr} {t : SemanticType}
    (h : HasType ctx naming e t) : t = .number ∨ t = .string ∨ t = .numberOrString := by
  have hvalue := h.isValue
  cases t <;> simp [SemanticType.isValue] at hvalue ⊢

section Operators

variable {ctx : Context} {a b : Expr}

theorem Agrees.unary (ha : Agrees ctx a) (sign : Sign) (s : Span) :
    Agrees ctx (.unary sign a s) := by
  have hiff : ∀ t, HasType ctx (.ofScope ctx.scope) (.unary sign a s) t ↔
      HasType ctx (.ofScope ctx.scope) a .number ∧ .number = t := by
    intro t
    constructor
    · rintro (_ | _ | h)
      exact ⟨h, rfl⟩
    · rintro ⟨h, rfl⟩
      exact .unary h
  refine ⟨?_, ?_, fun t => ?_⟩
  · rw [hiff, ← ha.number]
    simp [Expr.check, SemanticType.refusesOperators, signProblem?, SemanticType.fits]
  · rw [hiff]
    simp [Expr.check, SemanticType.refusesOperators, signProblem?, Problem.severity]
  · rw [hiff, ← ha.number]
    simp [Expr.check, SemanticType.refusesOperators, signProblem?, SemanticType.fits]

/-- Between loose operands a left one with a value decides the operation. -/
theorem check_binary_either {left : SemanticType} (operator : Operator) (s : Span)
    (h : (a.check ctx .numberOrString).type = left) (hvalue : left.isValue = true) :
    (Expr.binary operator a b s).check ctx .numberOrString =
      ⟨left, (a.check ctx .numberOrString).diagnostics ++
        (((operatorProblem? operator left).map (⟨·, s⟩)).toList ++
          (b.check ctx left).diagnostics)⟩ := by
  simp [Expr.check, SemanticType.refusesOperators, operationType, rightExpected, h, hvalue]

/-- Texts are joined by `+` and by nothing else. -/
theorem operatorProblem?_faultless_iff {operator : Operator} {type : SemanticType} {s : Span} :
    Faultless ((operatorProblem? operator type).map (⟨·, s⟩)).toList ↔
      (type = .string → operator = .add) := by
  unfold operatorProblem?
  split
  next h => simp [h.1, h.2, Problem.severity]
  next h =>
    have hadd : type = .string → operator = .add := by simpa using h
    simpa using hadd

theorem check_binary_number (operator : Operator) (s : Span) :
    Faultless ((Expr.binary operator a b s).check ctx .number).diagnostics ↔
      Faultless (a.check ctx .number).diagnostics ∧
        Faultless (b.check ctx .number).diagnostics := by
  simp [Expr.check, SemanticType.refusesOperators, operationType, operatorProblem?, rightExpected]

theorem check_binary_string (operator : Operator) (s : Span) :
    Faultless ((Expr.binary operator a b s).check ctx .string).diagnostics ↔
      Faultless (a.check ctx .string).diagnostics ∧ operator = .add ∧
        Faultless (b.check ctx .string).diagnostics := by
  simp [Expr.check, SemanticType.refusesOperators, operationType, rightExpected,
    operatorProblem?_faultless_iff]

/-- Between loose operands all three rules for an operation apply, one for each type that the left
operand can have. -/
theorem Agrees.binary_either (ha : Agrees ctx a) (hb : Agrees ctx b) (operator : Operator)
    (s : Span) (t : SemanticType) :
    Faultless ((Expr.binary operator a b s).check ctx .numberOrString).diagnostics ∧
        ((Expr.binary operator a b s).check ctx .numberOrString).type = t ↔
      HasType ctx (.ofScope ctx.scope) (.binary operator a b s) t := by
  constructor
  · rintro ⟨hf, rfl⟩
    have hleftFaultless : Faultless (a.check ctx .numberOrString).diagnostics := by
      simp only [Expr.check, SemanticType.refusesOperators] at hf
      exact (faultless_append.1 hf).1
    have hleft := (ha.either _).1 ⟨hleftFaultless, rfl⟩
    rw [check_binary_either operator s rfl hleft.isValue] at hf ⊢
    simp only [faultless_append, operatorProblem?_faultless_iff] at hf
    obtain ⟨-, hoperator, hright⟩ := hf
    rcases hleft.cases_value with h | h | h
    all_goals
      rw [h] at hleft hoperator hright ⊢
    · exact .numbers hleft (hb.number.1 hright)
    · obtain rfl := hoperator rfl
      exact .strings hleft (hb.string.1 hright)
    · exact .either hleft ((hb.either _).1 ⟨hright, rfl⟩)
  · intro h
    cases h with
    | numbers hleft hright =>
      obtain ⟨hf, htype⟩ := (ha.either _).2 hleft
      rw [check_binary_either operator s htype rfl]
      simp [hf, hb.number.2 hright, operatorProblem?]
    | strings hleft hright =>
      obtain ⟨hf, htype⟩ := (ha.either _).2 hleft
      rw [check_binary_either .add s htype rfl]
      simp [hf, hb.string.2 hright, operatorProblem?]
    | either hleft hright =>
      obtain ⟨hf, htype⟩ := (ha.either _).2 hleft
      rw [check_binary_either operator s htype rfl]
      simp [hf, ((hb.either _).2 hright).1, operatorProblem?]

theorem Agrees.binary (ha : Agrees ctx a) (hb : Agrees ctx b) (operator : Operator) (s : Span) :
    Agrees ctx (.binary operator a b s) := by
  refine ⟨?_, ?_, ha.binary_either hb operator s⟩
  · rw [check_binary_number, ha.number, hb.number]
    constructor
    · rintro ⟨hleft, hright⟩
      exact .numbers hleft hright
    · intro h
      cases h with
      | numbers hleft hright => exact ⟨hleft, hright⟩
  · rw [check_binary_string, ha.string, hb.string]
    constructor
    · rintro ⟨hleft, rfl, hright⟩
      exact .strings hleft hright
    · intro h
      cases h with
      | strings hleft hright => exact ⟨hleft, rfl, hright⟩

end Operators

/-! ### Arguments -/

section Arguments

variable {ctx : Context} {naming : Naming} {p : Parameter} {context : Option String} {e : Expr}

theorem fits_number_iff (hk : ParameterFamily.ofKind? p.kind = some .number) :
    Fits ctx naming p context e ↔ HasType ctx naming e .number := by
  refine ⟨fun h => ?_, .number hk⟩
  cases h <;> simp_all

theorem fits_string_iff (hk : ParameterFamily.ofKind? p.kind = some .string) :
    Fits ctx naming p context e ↔ HasType ctx naming e .string := by
  refine ⟨fun h => ?_, .string hk⟩
  cases h <;> simp_all

theorem fits_object_iff (hk : ParameterFamily.ofKind? p.kind = some .object) :
    Fits ctx naming p context e ↔ ∃ name, e.identifier? = some name := by
  constructor
  · intro h
    cases h <;> simp_all [Expr.identifier?]
  · rintro ⟨name, hname⟩
    cases e with
    | identifier n s => exact .object hk
    | _ => exact nomatch hname

theorem fits_behavior_iff (hk : ParameterFamily.ofKind? p.kind = some .behavior) :
    Fits ctx naming p context e ↔
      ∃ name, e.identifier? = some name ∧ naming.takesBehavior context name := by
  constructor
  · intro h
    cases h <;> simp_all [Expr.identifier?]
  · rintro ⟨name, hname, hbehavior⟩
    cases e with
    | identifier n s =>
      cases hname
      exact .behavior hk hbehavior
    | _ => exact nomatch hname

theorem fits_var_iff (hk : ParameterFamily.ofKind? p.kind = some .var) :
    Fits ctx naming p context e ↔ naming.takesVariable p context ∧
      ((∃ name s, e = .identifier name s) ∨
        ∃ name as s, e = .access name as s ∧ IndicesTyped ctx naming as) := by
  constructor
  · intro h
    cases h with
    | var _ hvariable => exact ⟨hvariable, .inl ⟨_, _, rfl⟩⟩
    | access _ hvariable has => exact ⟨hvariable, .inr ⟨_, _, _, rfl, has⟩⟩
    | number h | string h | object h | behavior h => simp_all
  · rintro ⟨hvariable, ⟨name, s, rfl⟩ | ⟨name, as, s, rfl, has⟩⟩
    · exact .var hk hvariable
    · exact .access hk hvariable has

/-- The argument `e` written for the parameter `p`. -/
def written (ctx : Context) (e : Expr) (p : Parameter) (position : Nat) : Argument :=
  ⟨e, fun expected => e.check ctx expected, p, position⟩

theorem object_faultless_iff {position : Nat} :
    Faultless ((written ctx e p position).settle .object (written ctx e p position).object) ↔
      ∃ name, e.identifier? = some name := by
  have hobject : (written ctx e p position).object.type = .object ∧
      (Faultless (written ctx e p position).object.diagnostics ↔
        ∃ name, e.identifier? = some name) := by
    cases e <;> simp [written, Argument.object, Expr.identifier?, Expr.check, checkIdentifier,
      Argument.problem, Problem.severity]
  rw [Argument.settle_faultless_iff, hobject.2]
  intro _
  rw [hobject.1]
  rfl

theorem variableRef_faultless_iff {position : Nat} :
    Faultless ((written ctx e p position).settle .var
        ((written ctx e p position).variableRef ctx.scope context)) ↔
      (p.kind = objectVariableKind → context.isSome) ∧
        ((∃ name s, e = .identifier name s) ∨
          ∃ name as s, e = .access name as s ∧ Faultless (checkIndices ctx as)) := by
  have htype : ((written ctx e p position).variableRef ctx.scope context).type = .var := by
    cases e <;> simp [written, Argument.variableRef, Argument.variableName?, Expr.check,
      checkIdentifier, checkAccess]
  rw [Argument.settle_faultless_iff (fun _ => by rw [htype]; rfl)]
  cases e with
  | identifier name s =>
    simp [written, Argument.variableRef, Argument.variableName?, Expr.check, checkIdentifier,
      Argument.variableProblem?_faultless_iff]
  | access name as s =>
    have hsome : Faultless (checkIndices ctx as) ↔
        ((∃ n u, Expr.access name as s = .identifier n u) ∨
          ∃ n bs u, Expr.access name as s = .access n bs u ∧ Faultless (checkIndices ctx bs)) := by
      constructor
      · exact fun h => .inr ⟨name, as, s, rfl, h⟩
      · rintro (⟨n, u, h⟩ | ⟨n, bs, u, h, hbs⟩)
        · cases h
        · cases h
          exact hbs
    rw [← hsome]
    simp [written, Argument.variableRef, Argument.variableName?, Expr.check, checkAccess,
      Argument.variableProblem?_faultless_iff]
  | _ =>
    simp [written, Argument.variableRef, Argument.variableName?, Argument.problem, Problem.severity]

/-- An argument is accepted exactly when it fits. The indices of a variable are no part of its check
as a value and come in on their own. -/
theorem argument_agrees (he : Agrees ctx e) (position : Nat)
    (hindices : ∀ name as s, e = .access name as s →
      (Faultless (checkIndices ctx as) ↔ IndicesTyped ctx (.ofScope ctx.scope) as)) :
    Faultless ((written ctx e p position).diagnostics ctx.scope context) ↔
      Fits ctx (.ofScope ctx.scope) p context e := by
  have hparameter : (written ctx e p position).parameter = p := rfl
  unfold Argument.diagnostics
  rw [hparameter]
  cases hk : ParameterFamily.ofKind? p.kind with
  | none =>
    refine iff_of_false ?_ ?_
    · simp [Argument.problem, Problem.severity]
    · intro h
      cases h <;> simp_all
  | some family =>
    cases family with
    | number =>
      rw [fits_number_iff hk, ← he.number]
      exact Argument.value_faultless_iff fun hf =>
        Expr.check_fits (fun h => absurd h (by decide)) hf
    | string =>
      rw [fits_string_iff hk, ← he.string]
      exact Argument.value_faultless_iff fun hf =>
        Expr.check_fits (fun h => absurd h (by decide)) hf
    | object =>
      rw [fits_object_iff hk]
      exact object_faultless_iff
    | var =>
      rw [fits_var_iff hk]
      refine variableRef_faultless_iff.trans (and_congr Iff.rfl (or_congr Iff.rfl ?_))
      constructor
      · rintro ⟨name, as, s, rfl, has⟩
        exact ⟨name, as, s, rfl, (hindices name as s rfl).1 has⟩
      · rintro ⟨name, as, s, rfl, has⟩
        exact ⟨name, as, s, rfl, (hindices name as s rfl).2 has⟩
    | behavior =>
      rw [fits_behavior_iff hk]
      exact Argument.behavior_faultless_iff.trans (by simp [Naming.ofScope, written])

end Arguments

/-! ### Calls -/

namespace SemanticType

theorem returnsFor_number {t : SemanticType} : t.returnsFor .number = true ↔ t = .number := by
  cases t <;> decide

theorem returnsFor_string {t : SemanticType} : t.returnsFor .string = true ↔ t = .string := by
  cases t <;> decide

theorem returnsFor_numberOrString {t : SemanticType} :
    t.returnsFor .numberOrString = true ↔ t.isValue = true := by
  cases t <;> decide

end SemanticType

section Calls

variable {ctx : Context} {callee : Callee} {es : List Expr} {s : Span}

/-- What is found in the arguments of a call of the function `f`. -/
def found (ctx : Context) (callee : Callee) (es : List Expr) (f : Signature) : List Diagnostic :=
  checkArguments ctx (callee.object?.map (·.text)) 1 es (f.written callee.impliedParameters)

theorem check_call_faultless_iff {expected t : SemanticType} :
    Faultless ((Expr.call callee es s).check ctx expected).diagnostics ∧
        ((Expr.call callee es s).check ctx expected).type = t ↔
      ∃ f, Callable ctx callee es f ∧
        (SemanticType.ofKind f.returnKind).returnsFor expected = true ∧
        SemanticType.ofKind f.returnKind = t ∧ Faultless (found ctx callee es f) := by
  rw [Expr.check]
  rcases ctx.resolve_cases expected callee es s with ⟨f, hf, hreturn, heq⟩ | ⟨u, d, hd, heq, hno⟩
  · rw [heq]
    constructor
    · rintro ⟨hfaultless, htype⟩
      exact ⟨f, hf, hreturn, htype, hfaultless⟩
    · rintro ⟨g, hg, -, htype, hfaultless⟩
      obtain rfl := hg.unique hf
      exact ⟨hfaultless, htype⟩
  · rw [heq]
    refine iff_of_false ?_ ?_
    · simp [hd]
    · rintro ⟨g, hg, hreturn, -⟩
      exact absurd (hno g hg) (by rw [hreturn]; decide)

theorem hasType_call_iff {naming : Naming} {t : SemanticType} :
    HasType ctx naming (.call callee es s) t ↔
      ∃ f, Callable ctx callee es f ∧ t.isValue = true ∧ SemanticType.ofKind f.returnKind = t ∧
        ArgumentsFit ctx naming (callee.object?.map (·.text)) es
          (f.written callee.impliedParameters) := by
  constructor
  · intro h
    cases h with
    | call hf hvalue hargs => exact ⟨_, hf, hvalue, rfl, hargs⟩
  · rintro ⟨f, hf, hvalue, rfl, hargs⟩
    exact .call hf hvalue hargs

theorem check_call_returnsFor {expected : SemanticType}
    (h : Faultless ((Expr.call callee es s).check ctx expected).diagnostics) :
    ((Expr.call callee es s).check ctx expected).type.returnsFor expected = true := by
  obtain ⟨f, -, hreturn, htype, -⟩ := check_call_faultless_iff.1 ⟨h, rfl⟩
  rw [← htype]
  exact hreturn

theorem Agrees.call
    (hargs : ∀ f, Callable ctx callee es f →
      (Faultless (found ctx callee es f) ↔
        ArgumentsFit ctx (.ofScope ctx.scope) (callee.object?.map (·.text)) es
          (f.written callee.impliedParameters))) :
    Agrees ctx (.call callee es s) := by
  have hagree : ∀ expected t : SemanticType,
      (t.returnsFor expected = true ↔ t.isValue = true) →
      (Faultless ((Expr.call callee es s).check ctx expected).diagnostics ∧
          ((Expr.call callee es s).check ctx expected).type = t ↔
        HasType ctx (.ofScope ctx.scope) (.call callee es s) t) := by
    intro expected t hreturn
    rw [check_call_faultless_iff, hasType_call_iff]
    refine exists_congr fun f => and_congr_right fun hf => ?_
    rw [hargs f hf]
    constructor
    · rintro ⟨hr, rfl, hfit⟩
      exact ⟨hreturn.1 hr, rfl, hfit⟩
    · rintro ⟨hvalue, rfl, hfit⟩
      exact ⟨hreturn.2 hvalue, rfl, hfit⟩
  refine ⟨?_, ?_, fun t => hagree _ t SemanticType.returnsFor_numberOrString⟩
  · rw [← hagree .number .number (by decide)]
    exact (and_iff_left_of_imp fun h =>
      SemanticType.returnsFor_number.1 (check_call_returnsFor h)).symm
  · rw [← hagree .string .string (by decide)]
    exact (and_iff_left_of_imp fun h =>
      SemanticType.returnsFor_string.1 (check_call_returnsFor h)).symm

end Calls

/-! ### Whole trees -/

section Leaves

variable {ctx : Context} {s : Span}

/-- A literal is accepted where its own type or either of the two may stand. -/
theorem Agrees.literal {e : Expr} {found : SemanticType}
    (hfound : found = .number ∨ found = .string)
    (htype : ∀ t, HasType ctx (.ofScope ctx.scope) e t ↔ found = t)
    (hcheck : ∀ expected, e.check ctx expected = checkLiteral found expected s) :
    Agrees ctx e := by
  refine ⟨?_, ?_, fun t => ?_⟩
  all_goals
    rw [htype, hcheck]
    rcases hfound with rfl | rfl <;>
      simp [checkLiteral, SemanticType.fits, Problem.severity]

theorem hasType_number_iff {naming : Naming} {text : String} {t : SemanticType} :
    HasType ctx naming (.number text s) t ↔ .number = t :=
  ⟨fun h => by cases h; rfl, fun h => h ▸ .number⟩

theorem hasType_string_iff {naming : Naming} {value : String} {t : SemanticType} :
    HasType ctx naming (.string value s) t ↔ .string = t :=
  ⟨fun h => by cases h; rfl, fun h => h ▸ .string⟩

/-- Names, variables and nothing at all have no type, and an error is found in them. -/
theorem Agrees.of_untyped {e : Expr} (hno : ∀ t, ¬ HasType ctx (.ofScope ctx.scope) e t)
    (hcheck : ∀ t, t = .number ∨ t = .string ∨ t = .numberOrString →
      ¬ Faultless (e.check ctx t).diagnostics) : Agrees ctx e :=
  ⟨iff_of_false (hcheck _ (.inl rfl)) (hno _), iff_of_false (hcheck _ (.inr (.inl rfl))) (hno _),
    fun t => iff_of_false (fun h => hcheck _ (.inr (.inr rfl)) h.1) (hno t)⟩

end Leaves

mutual

/-- Checking agrees with the judgement on every tree without unread text. -/
theorem Expr.agrees (ctx : Context) : ∀ e : Expr, e.Legible → Agrees ctx e
  | .number text s, _ =>
    .literal (.inl rfl) (fun _ => hasType_number_iff) fun _ => by rw [Expr.check]
  | .string value s, _ =>
    .literal (.inr rfl) (fun _ => hasType_string_iff) fun _ => by rw [Expr.check]
  | .identifier name s, _ => by
    refine .of_untyped (fun t h => nomatch h) ?_
    rintro t (rfl | rfl | rfl) <;> simp [Expr.check, checkIdentifier, Problem.severity]
  | .access name as s, _ => by
    refine .of_untyped (fun t h => nomatch h) ?_
    rintro t (rfl | rfl | rfl) <;> simp [Expr.check, checkAccess, Problem.severity]
  | .unary sign e s, h => (e.agrees ctx fun n hn => h n (.tail _ hn)).unary sign s
  | .binary operator a b s, h =>
    (a.agrees ctx fun n hn => h n (.tail _ (List.mem_append_left b.nodes hn))).binary
      (b.agrees ctx fun n hn => h n (.tail _ (List.mem_append_right a.nodes hn))) operator s
  | .call callee es s, h => .call fun f hf =>
    arguments_agree ctx es _ 1 _ (fun n hn => h n (.tail _ hn)) hf.most
  | .empty s, _ => by
    refine .of_untyped (fun t h => nomatch h) ?_
    rintro t (rfl | rfl | rfl) <;> simp [Expr.check, checkEmpty, Problem.severity]
  | .error reason text s, h => absurd (h _ (.head _)) (by simp [Expr.isError])
termination_by e => sizeOf e

/-- The arguments of a call are accepted exactly when they fit. -/
theorem arguments_agree (ctx : Context) : ∀ (es : List Expr) (context : Option String)
    (position : Nat) (ps : List Parameter), (∀ n ∈ argumentNodes es, n.isError = false) →
      es.length ≤ ps.length →
      (Faultless (checkArguments ctx context position es ps) ↔
        ArgumentsFit ctx (.ofScope ctx.scope) context es ps)
  | [], context, position, ps, _, _ => by
    simp only [checkArguments, faultless_nil, true_iff]
    exact .done
  | e :: es, context, position, [], _, hlen => absurd hlen (by simp)
  | e :: es, context, position, p :: ps, h, hlen => by
    have he : e.Legible := fun n hn => h n (List.mem_append_left (argumentNodes es) hn)
    have hes := arguments_agree ctx es (objectAfter p e context) (position + 1) ps
      (fun n hn => h n (List.mem_append_right e.nodes hn)) (Nat.le_of_succ_le_succ hlen)
    have hfit : Faultless ((written ctx e p position).diagnostics ctx.scope context) ↔
        Fits ctx (.ofScope ctx.scope) p context e :=
      argument_agrees (e.agrees ctx he) position fun name as s heq =>
        indices_agree ctx as (fun n hn => he n (heq ▸ .tail _ hn))
    rw [checkArguments, faultless_append]
    constructor
    · rintro ⟨harg, hrest⟩
      exact .cons (hfit.1 harg) (hes.1 hrest)
    · intro hall
      cases hall with
      | cons harg hrest => exact ⟨hfit.2 harg, hes.2 hrest⟩
termination_by es => sizeOf es

/-- The indices of a variable are accepted exactly when all of them have a type. -/
theorem indices_agree (ctx : Context) : ∀ as : List Accessor,
    (∀ n ∈ accessorNodes as, n.isError = false) →
      (Faultless (checkIndices ctx as) ↔ IndicesTyped ctx (.ofScope ctx.scope) as)
  | [], _ => by
    simp only [checkIndices, faultless_nil, true_iff]
    exact .nil
  | .child name s :: as, h => by
    have has := indices_agree ctx as h
    rw [checkIndices, has]
    constructor
    · exact .child
    · rintro (_ | h)
      exact h
  | .index e s :: as, h => by
    have he := e.agrees ctx fun n hn => h n (List.mem_append_left (accessorNodes as) hn)
    have has := indices_agree ctx as fun n hn => h n (List.mem_append_right e.nodes hn)
    rw [checkIndices, faultless_append, has]
    constructor
    · rintro ⟨hindex, hrest⟩
      exact .index ((he.either _).1 ⟨hindex, rfl⟩) hrest
    · intro hall
      cases hall with
      | index hindex hrest => exact ⟨((he.either _).2 hindex).1, hrest⟩
termination_by as => sizeOf as

end

end EventSheet
