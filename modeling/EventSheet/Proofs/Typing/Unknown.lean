import Mathlib.Data.List.Basic
import EventSheet.Proofs.Reading.Form
import EventSheet.Proofs.Typing.Calls
import EventSheet.Proofs.Typing.Telling
import EventSheet.Report.Basic

/-!
# Functions that are not found

Every call of a function that is not found is reported, once and at the call, wherever it stands:
`unknownFunctions_checkText`. The walk reaches every node whatever else is wrong around it. A call
that fails its own checks has its arguments checked all the same, an argument is checked once
whatever its parameter takes, and no argument is left over when the parameters are paired with them.
-/

namespace EventSheet

/-- What is reported of a node that calls a function that is not found. -/
def Expr.unknownCall? (ctx : Context) : Expr → Option Diagnostic
  | .call callee _ s =>
    match (ctx.lookup callee).signature with
    | none => some ⟨.unknownFunction callee.function.text, s⟩
    | some _ => none
  | _ => none

/-- The calls in a tree of functions that are not found, as they are reported. -/
def Expr.unknownCalls (ctx : Context) (e : Expr) : List Diagnostic :=
  e.nodes.filterMap (unknownCall? ctx)

/-- The diagnostics about functions that are not found. -/
def unknownFunctions (ds : List Diagnostic) : List Diagnostic :=
  ds.filter (·.code = .invalidFunctionName)

/-- Whatever type is required, checking the tree reports its calls of functions that are not found,
each once, and no other functions. -/
def Expr.Accounted (ctx : Context) (e : Expr) : Prop :=
  ∀ expected, unknownFunctions (e.check ctx expected).diagnostics = e.unknownCalls ctx

section

variable {d : Diagnostic} {ds es : List Diagnostic}

@[simp] theorem unknownFunctions_nil : unknownFunctions [] = [] := rfl

@[simp] theorem unknownFunctions_append :
    unknownFunctions (ds ++ es) = unknownFunctions ds ++ unknownFunctions es :=
  List.filter_append ..

@[simp] theorem unknownFunctions_flatMap {α : Type} (f : α → List Diagnostic) (xs : List α) :
    unknownFunctions (xs.flatMap f) = xs.flatMap fun x => unknownFunctions (f x) :=
  List.filter_flatMap

theorem unknownFunctions_cons_of_ne (h : d.code ≠ .invalidFunctionName) :
    unknownFunctions (d :: ds) = unknownFunctions ds :=
  List.filter_cons_of_neg (by simpa using h)

theorem unknownFunctions_eq_nil (h : ∀ d ∈ ds, d.code ≠ .invalidFunctionName) :
    unknownFunctions ds = [] := by
  rw [unknownFunctions, List.filter_eq_nil_iff]
  simpa using h

end

section

variable {ctx : Context}

theorem Expr.unknownCalls_eq (e : Expr) :
    e.unknownCalls ctx = (e.unknownCall? ctx).toList ++ e.children.flatMap (unknownCalls ctx) := by
  have hbelow : e.descendants.filterMap (unknownCall? ctx) =
      e.children.flatMap (unknownCalls ctx) := by
    rw [descendants_eq_flatMap, List.filterMap_flatMap]
    rfl
  rw [unknownCalls, nodes, List.filterMap_cons, hbelow]
  cases e.unknownCall? ctx <;> rfl

theorem Expr.unknownCalls_access {name : Name} {as : List Accessor} {s : Span} :
    (access name as s).unknownCalls ctx = (indices as).flatMap (unknownCalls ctx) :=
  unknownCalls_eq _

theorem Expr.unknownCalls_unary {sign : Sign} {a : Expr} {s : Span} :
    (unary sign a s).unknownCalls ctx = a.unknownCalls ctx := by
  rw [unknownCalls_eq]
  exact List.append_nil _

theorem Expr.unknownCalls_binary {operator : Operator} {a b : Expr} {s : Span} :
    (binary operator a b s).unknownCalls ctx = a.unknownCalls ctx ++ b.unknownCalls ctx := by
  rw [unknownCalls_eq]
  simp [unknownCall?, children]

theorem Expr.unknownCalls_call {callee : Callee} {es : List Expr} {s : Span} :
    (call callee es s).unknownCalls ctx =
      ((call callee es s).unknownCall? ctx).toList ++ es.flatMap (unknownCalls ctx) :=
  unknownCalls_eq _

end

/-! ### Arguments -/

namespace Argument

variable {a : Argument}

theorem unknownFunctions_settle (family : ParameterFamily) (v : Verdict) :
    unknownFunctions (a.settle family v) = unknownFunctions v.diagnostics :=
  filter_settle (· = .invalidFunctionName) rfl family v

theorem unknownFunctions_value (family : ParameterFamily) :
    unknownFunctions (a.value family) =
      unknownFunctions (a.check family.expectedType).diagnostics :=
  filter_value (· = .invalidFunctionName) rfl rfl family

theorem unknownFunctions_variableProblem? (scope : Scope) (context : Option String)
    (name : String) : unknownFunctions (a.variableProblem? scope context name).toList = [] := by
  unfold variableProblem?
  repeat' split
  all_goals rfl

/-- Whatever its parameter takes, an argument is checked once. -/
theorem unknownFunctions_diagnostics {ctx : Context} (scope : Scope) (context : Option String)
    (h : ∀ expected, unknownFunctions (a.check expected).diagnostics = a.expr.unknownCalls ctx) :
    unknownFunctions (a.diagnostics scope context) = a.expr.unknownCalls ctx := by
  have hnested (p : Problem) (hp : p.code ≠ .invalidFunctionName) :
      unknownFunctions (a.problem p :: a.nested) = a.expr.unknownCalls ctx := by
    rw [unknownFunctions_cons_of_ne (d := a.problem p) hp]
    exact h .unknown
  unfold diagnostics
  split
  · exact hnested _ nofun
  · rw [unknownFunctions_value, h]
  · rw [unknownFunctions_value, h]
  · rw [unknownFunctions_settle]
    unfold object
    split
    · exact h .object
    · exact hnested _ nofun
  · rw [unknownFunctions_settle]
    unfold variableRef
    split
    · rw [unknownFunctions_append, unknownFunctions_variableProblem?, List.nil_append, h]
    · exact hnested _ nofun
  · unfold behavior
    split
    · exact hnested _ nofun
    next name hname =>
      -- A bare name is not checked as an expression, and there is no call in it.
      have hnone : a.expr.unknownCalls ctx = [] := by
        cases hexpr : a.expr with
        | identifier => rfl
        | _ =>
          rw [hexpr] at hname
          exact nomatch hname
      rw [hnone]
      repeat' split
      all_goals rfl

end Argument

/-! ### Nodes -/

section

variable {ctx : Context}

/-- A call whose function is found fails for another reason, or takes as many arguments as are
written. -/
theorem Context.resolve_of_found (expected : SemanticType) {callee : Callee} (es : List Expr)
    (s : Span) {f : Signature} (h : (ctx.lookup callee).signature = some f) :
    (∃ d, (ctx.resolve expected callee es s).outcome = .error d ∧
        d.code ≠ .invalidFunctionName) ∨
      ((ctx.resolve expected callee es s).outcome = .ok f ∧
        es.length ≤ (f.written callee.impliedParameters).length) := by
  unfold resolve
  simp only [h]
  cases hcap : ctx.capabilityProblem? callee (ctx.lookup callee).objectType f with
  | some d =>
    obtain ⟨object, capability, -, rfl⟩ := eq_of_capabilityProblem? hcap
    exact .inl ⟨_, rfl, nofun⟩
  | none =>
    dsimp only
    split
    next =>
      cases hcount : countProblem? callee f es s with
      | some d =>
        refine .inl ⟨d, rfl, ?_⟩
        obtain ⟨least, most, rfl⟩ | ⟨least, most, extra, rest, -, rfl⟩ :=
          eq_of_countProblem? hcount
        · exact nofun
        · exact nofun
      | none => exact .inr ⟨rfl, (countProblem?_eq_none_iff.1 hcount).2⟩
    next => exact .inl ⟨_, rfl, nofun⟩

/-- Arguments are paired with parameters up to the last of them. -/
theorem unknownFunctions_checkArguments {es : List Expr} {ps : List Parameter}
    {context : Option String} {position : Nat} (hlength : es.length ≤ ps.length)
    (h : ∀ e ∈ es, e.Accounted ctx) :
    unknownFunctions (checkArguments ctx context position es ps) =
      es.flatMap (Expr.unknownCalls ctx) := by
  induction es generalizing ps context position with
  | nil => simp [checkArguments]
  | cons e es ih =>
    cases ps with
    -- An argument without a parameter would be left out with all calls in it.
    | nil => exact absurd hlength (by simp)
    | cons p ps =>
      have hfirst (expected : SemanticType) := h e (.head _) expected
      have hrest : es.length ≤ ps.length := Nat.le_of_succ_le_succ hlength
      rw [checkArguments, unknownFunctions_append, List.flatMap_cons,
        Argument.unknownFunctions_diagnostics _ _ hfirst, ih hrest fun e he => h e (.tail _ he)]

theorem Expr.unknownFunctions_check_call {callee : Callee} {es : List Expr} {s : Span}
    {expected : SemanticType} (h : ∀ e ∈ es, e.Accounted ctx) :
    unknownFunctions ((call callee es s).check ctx expected).diagnostics =
      ((call callee es s).unknownCall? ctx).toList ++ es.flatMap (unknownCalls ctx) := by
  have hloosely : unknownFunctions (checkLoosely ctx es) = es.flatMap (unknownCalls ctx) := by
    rw [checkLoosely_eq_flatMap, unknownFunctions_flatMap]
    exact List.flatMap_congr fun e he => h e he .unknown
  cases hfound : (ctx.lookup callee).signature with
  | none =>
    have houtcome : (ctx.resolve expected callee es s).outcome =
        .error ⟨.unknownFunction callee.function.text, s⟩ := by
      unfold Context.resolve
      simp only [hfound]
    simp only [check, unknownCall?, houtcome, hfound]
    rw [← hloosely]
    rfl
  | some f =>
    obtain ⟨d, houtcome, hcode⟩ | ⟨houtcome, hlength⟩ :=
      ctx.resolve_of_found expected es s hfound
    · simp only [check, unknownCall?, houtcome, hfound]
      rw [unknownFunctions_cons_of_ne hcode, hloosely]
      rfl
    · simp only [check, unknownCall?, houtcome, hfound]
      rw [unknownFunctions_checkArguments hlength h]
      rfl

theorem Expr.unknownFunctions_check_unary {sign : Sign} {a : Expr} {s : Span}
    {expected : SemanticType} (h : a.Accounted ctx) :
    unknownFunctions ((unary sign a s).check ctx expected).diagnostics = a.unknownCalls ctx := by
  rw [check]
  split
  · rw [unknownFunctions_cons_of_ne, h]
    exact nofun
  · have hsign :
        unknownFunctions ((signProblem? expected).map (Diagnostic.mk · s)).toList = [] := by
      unfold signProblem?
      repeat' split
      all_goals rfl
    rw [unknownFunctions_append, hsign, h, List.nil_append]

theorem Expr.unknownFunctions_check_binary {operator : Operator} {a b : Expr} {s : Span}
    {expected : SemanticType} (ha : a.Accounted ctx) (hb : b.Accounted ctx) :
    unknownFunctions ((binary operator a b s).check ctx expected).diagnostics =
      a.unknownCalls ctx ++ b.unknownCalls ctx := by
  have hown (operation : SemanticType) :
      unknownFunctions ((operatorProblem? operator operation).map (Diagnostic.mk · s)).toList =
        [] := by
    unfold operatorProblem?
    split
    all_goals rfl
  rw [check]
  split
  · rw [unknownFunctions_cons_of_ne, unknownFunctions_append, ha, hb]
    exact nofun
  · dsimp only
    rw [unknownFunctions_append, unknownFunctions_append, ha, hown, hb, List.nil_append]

theorem Expr.unknownFunctions_check_access {name : Name} {as : List Accessor} {s : Span}
    {expected : SemanticType} (h : ∀ e ∈ indices as, e.Accounted ctx) :
    unknownFunctions ((access name as s).check ctx expected).diagnostics =
      (indices as).flatMap (unknownCalls ctx) := by
  have hinside : unknownFunctions (checkIndices ctx as) =
      (indices as).flatMap (unknownCalls ctx) := by
    rw [checkIndices_eq_flatMap, unknownFunctions_flatMap]
    exact List.flatMap_congr fun e he => h e he .numberOrString
  rw [check]
  unfold checkAccess
  split
  · exact hinside
  · exact hinside
  · rw [unknownFunctions_append, hinside]
    exact List.append_nil _

/-- Every tree is accounted for, as the trees that it is made of are. -/
theorem Expr.accounted (ctx : Context) (e : Expr) : e.Accounted ctx := by
  -- Each node requires other types of its parts, and what is accounted for is the same for all.
  intro expected
  induction e generalizing expected with
  | number text s | string value s =>
    rw [check]
    unfold checkLiteral
    dsimp only
    split <;> rfl
  | identifier name s =>
    rw [check]
    unfold checkIdentifier
    split <;> rfl
  | empty s =>
    rw [check]
    unfold checkEmpty
    split <;> rfl
  | error reason text s =>
    rw [check]
    rfl
  | access name as s ih => rw [unknownFunctions_check_access ih, unknownCalls_access]
  | unary sign a s ih => rw [unknownFunctions_check_unary ih, unknownCalls_unary]
  | binary operator a b s iha ihb =>
    rw [unknownFunctions_check_binary iha ihb, unknownCalls_binary]
  | call callee es s ih => rw [unknownFunctions_check_call ih, unknownCalls_call]

/-- The functions that are reported as not found are those of the calls in the tree whose look-up
fails, each once, where it is called. -/
theorem unknownFunctions_checkText (ctx : Context) (expected : SemanticType) (source : String) :
    unknownFunctions (checkText ctx expected source).diagnostics =
      (parse source).root.unknownCalls ctx := by
  have hform : unknownFunctions (parse source).diagnostics = [] := by
    apply unknownFunctions_eq_nil
    intro d hd hcode
    exact nomatch hcode ▸ parse_isForm hd
  show unknownFunctions (_ ++ _) = _
  rw [unknownFunctions_append, hform, Expr.accounted, List.nil_append]

end

end EventSheet
