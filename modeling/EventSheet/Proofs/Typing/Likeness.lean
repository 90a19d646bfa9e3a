import EventSheet.Proofs.Reading.Placement
import EventSheet.Proofs.Syntax.Forms
import EventSheet.Proofs.Typing.Telling

/-!
# Diagnostics that are told alike

Checking asks of places only whether a type error covers all of an argument. Two lists of
diagnostics are told alike when they tell the same, and the same type errors of them cover the one
argument and the other. Arguments that are checked alike are reported alike, and calls that are
written alike resolve alike.
-/

namespace EventSheet

/-! ### Alike diagnostics -/

/-- What is told, and whether it is a type error that covers the span. -/
def Diagnostic.toldAt (s : Span) (d : Diagnostic) : Problem × Bool :=
  (d.problem, decide (d.code = .typeError ∧ d.span = s))

/-- No type error among the diagnostics covers the span. -/
def Uncovered (s : Span) (ds : List Diagnostic) : Prop :=
  ∀ d ∈ ds, d.code = .typeError → d.span ≠ s

/-- Two checks resolve to the same type and tell the same, and the same type errors cover the one
span and the other. -/
structure AlikeVerdicts (s s' : Span) (v v' : Verdict) : Prop where
  type : v.type = v'.type
  told : v.diagnostics.map (·.toldAt s) = v'.diagnostics.map (·.toldAt s')

section

variable {s s' : Span} {ds ds' es es' : List Diagnostic}

theorem problems_eq_of_told (h : ds.map (·.toldAt s) = ds'.map (·.toldAt s')) :
    ds.map (·.problem) = ds'.map (·.problem) := by
  have hfst := congrArg (List.map Prod.fst) h
  rwa [List.map_map, List.map_map] at hfst

/-- Where no type error covers the span, what is told is all there is to compare. -/
theorem told_eq_of_uncovered (h : ds.map (·.problem) = ds'.map (·.problem)) (hs : Uncovered s ds)
    (hs' : Uncovered s' ds') : ds.map (·.toldAt s) = ds'.map (·.toldAt s') := by
  have htold : ∀ {s : Span} {ds : List Diagnostic}, Uncovered s ds →
      ds.map (·.toldAt s) = (ds.map (·.problem)).map (·, false) := by
    intro s ds hs
    rw [List.map_map]
    apply List.map_congr_left
    intro d hd
    have hfalse : ¬ (d.code = .typeError ∧ d.span = s) := fun hcover => hs d hd hcover.1 hcover.2
    simp [Diagnostic.toldAt, hfalse]
  rw [htold hs, htold hs', h]

/-- A problem of a node is told at the span of the node. -/
theorem toldAt_self (problem : Problem) (s s' : Span) :
    Diagnostic.toldAt s ⟨problem, s⟩ = Diagnostic.toldAt s' ⟨problem, s'⟩ := by
  simp [Diagnostic.toldAt, Diagnostic.code]

end

section

variable {ctx : Context} {e : Expr}

/-- Nothing that is found below a node covers the node. -/
theorem Expr.Apart.uncovered_descendant {m : Expr} {expected : SemanticType} (h : e.Apart)
    (hm : m ∈ e.descendants) : Uncovered e.span (m.check ctx expected).diagnostics := by
  intro d hd hcode
  obtain ⟨c, hc, hm⟩ := mem_descendants_iff.1 hm
  obtain ⟨n, hn, hspan⟩ := exists_node_of_typeError hd hcode
  rw [hspan]
  exact h n (mem_descendants_iff.2 ⟨c, hc, nodes_trans hn hm⟩)

theorem Expr.Apart.uncovered {c : Expr} {expected : SemanticType} (h : e.Apart)
    (hc : c ∈ e.children) : Uncovered e.span (c.check ctx expected).diagnostics :=
  h.uncovered_descendant (mem_descendants_iff.2 ⟨c, hc, .head _⟩)

/-- Nothing that is found in nodes below a node covers it. -/
theorem Expr.Apart.uncovered_flatMap (he : e.Apart) (expected : SemanticType) :
    Uncovered e.span (e.children.flatMap fun c => (c.check ctx expected).diagnostics) := by
  intro d hd
  obtain ⟨c, hc, hd⟩ := List.mem_flatMap.1 hd
  exact he.uncovered hc d hd

/-- Nothing that is found in arguments covers their call. -/
theorem Expr.Apart.uncovered_arguments {es : List Expr} {context : Option String} {position : Nat}
    {ps : List Parameter} (he : e.Apart) (hes : e.children = es) :
    Uncovered e.span (checkArguments ctx context position es ps) := by
  intro d hd hcode
  obtain ⟨a, ha, hcheck, htells⟩ := exists_tells_of_mem_checkArguments hd
  cases htells with
  | whole _ hother => exact absurd hcode hother
  | inside hinside =>
    rw [hcheck] at hinside
    rw [← hes] at ha
    exact he.uncovered ha d hinside hcode

end

/-! ### Arguments -/

/-- Two arguments for the same parameter at the same place that are checked alike. -/
structure Argument.Alike (a a' : Argument) : Prop where
  expr : a.expr.form = a'.expr.form
  check : ∀ expected, AlikeVerdicts a.expr.span a'.expr.span (a.check expected) (a'.check expected)
  parameter : a.parameter = a'.parameter
  position : a.position = a'.position

namespace Argument.Alike

variable {a a' : Argument} (h : a.Alike a')

include h

theorem nested : a.nested.map (·.problem) = a'.nested.map (·.problem) :=
  problems_eq_of_told (h.check .unknown).told

/-- A type error is told about the parameter in both arguments or in none. -/
theorem attribute? {ds ds' : List Diagnostic}
    (hds : ds.map (·.toldAt a.expr.span) = ds'.map (·.toldAt a'.expr.span)) :
    (a.attribute? ds).map (List.map (·.problem)) =
      (a'.attribute? ds').map (List.map (·.problem)) := by
  have hcons : ∀ (d : Diagnostic) (found : Option (List Diagnostic)),
      (found.map (d :: ·)).map (List.map (·.problem)) =
        (found.map (List.map (·.problem))).map (d.problem :: ·) := by
    intro d found
    cases found <;> rfl
  induction ds generalizing ds' with
  | nil =>
    cases ds' with
    | nil => rfl
    | cons => exact nomatch hds
  | cons d ds ih =>
    cases ds' with
    | nil => exact nomatch hds
    | cons d' ds' =>
      obtain ⟨hd, hds⟩ := List.cons.inj hds
      obtain ⟨hproblem, hcover⟩ := Prod.mk.inj hd
      have hcover : (d.code = .typeError ∧ d.span = a.expr.span) ↔
          (d'.code = .typeError ∧ d'.span = a'.expr.span) := decide_eq_decide.1 hcover
      rw [Argument.attribute?, Argument.attribute?]
      by_cases hwhole : d.code = .typeError ∧ d.span = a.expr.span
      · rw [if_pos hwhole, if_pos (hcover.1 hwhole)]
        simp only [Option.map_some, List.map_cons, problems_eq_of_told hds, hproblem, h.position,
          h.parameter]
      · rw [if_neg hwhole, if_neg fun hwhole' => hwhole (hcover.2 hwhole'), hcons, hcons, ih hds,
          hproblem]

theorem settle {v v' : Verdict} (htype : v.type = v'.type)
    (hproblems : v.diagnostics.map (·.problem) = v'.diagnostics.map (·.problem))
    (family : ParameterFamily) :
    (a.settle family v).map (·.problem) = (a'.settle family v').map (·.problem) := by
  have hempty : v.diagnostics.isEmpty = v'.diagnostics.isEmpty := by
    rw [← List.isEmpty_map, hproblems, List.isEmpty_map]
  unfold Argument.settle
  rw [hempty, htype]
  split
  · simp only [List.map_cons, List.map_nil, Argument.problem, h.position, h.parameter]
  · exact hproblems

theorem value (family : ParameterFamily) :
    (a.value family).map (·.problem) = (a'.value family).map (·.problem) := by
  have hcheck := h.check family.expectedType
  have hattribute := h.attribute? hcheck.told
  unfold Argument.value
  dsimp only
  cases hds : a.attribute? (a.check family.expectedType).diagnostics with
  | some ds =>
    rw [hds] at hattribute
    obtain ⟨ds', hds', hproblems⟩ := Option.map_eq_some_iff.1 hattribute.symm
    rw [hds']
    exact hproblems.symm
  | none =>
    rw [hds] at hattribute
    rw [Option.map_eq_none_iff.1 hattribute.symm]
    exact h.settle hcheck.type (problems_eq_of_told hcheck.told) family

theorem identifier?_eq : a.expr.identifier? = a'.expr.identifier? := by
  rw [← Expr.identifier?_form, h.expr, Expr.identifier?_form]

theorem variableName?_eq : a.variableName? = a'.variableName? := by
  have hexpr := h.expr
  unfold Argument.variableName?
  cases ha : a.expr <;> cases ha' : a'.expr <;> simp_all [Expr.form, Name.form]

theorem object :
    a.object.type = a'.object.type ∧
      a.object.diagnostics.map (·.problem) = a'.object.diagnostics.map (·.problem) := by
  have hcheck := h.check .object
  unfold Argument.object
  rw [h.identifier?_eq]
  split
  · exact ⟨hcheck.type, problems_eq_of_told hcheck.told⟩
  · refine ⟨rfl, ?_⟩
    rw [List.map_cons, List.map_cons, h.nested]
    rfl

theorem variableProblem? (scope : Scope) (context : Option String) (name : String) :
    (a.variableProblem? scope context name).map (·.problem) =
      (a'.variableProblem? scope context name).map (·.problem) := by
  unfold Argument.variableProblem?
  rw [h.parameter]
  repeat' split
  all_goals rfl

theorem variableRef (scope : Scope) (context : Option String) :
    (a.variableRef scope context).type = (a'.variableRef scope context).type ∧
      (a.variableRef scope context).diagnostics.map (·.problem) =
        (a'.variableRef scope context).diagnostics.map (·.problem) := by
  have hcheck := h.check .var
  unfold Argument.variableRef
  rw [h.variableName?_eq]
  split
  next name _ =>
    refine ⟨hcheck.type, ?_⟩
    have hproblem := congrArg Option.toList (h.variableProblem? scope context name)
    rw [Option.toList_map, Option.toList_map] at hproblem
    dsimp only
    rw [List.map_append, List.map_append, hproblem, problems_eq_of_told hcheck.told]
  · refine ⟨rfl, ?_⟩
    rw [List.map_cons, List.map_cons, h.nested]
    rfl

theorem behavior (scope : Scope) (context : Option String) :
    (a.behavior scope context).map (·.problem) = (a'.behavior scope context).map (·.problem) := by
  unfold Argument.behavior
  rw [h.identifier?_eq]
  repeat' split
  · rw [List.map_cons, List.map_cons, h.nested]
    rfl
  all_goals rfl

/-- What is found in alike arguments is alike. -/
theorem diagnostics (scope : Scope) (context : Option String) :
    (a.diagnostics scope context).map (·.problem) =
      (a'.diagnostics scope context).map (·.problem) := by
  unfold Argument.diagnostics
  rw [← h.parameter]
  split
  · rw [List.map_cons, List.map_cons, h.nested, ← h.position]
    rfl
  · exact h.value .number
  · exact h.value .string
  · exact h.settle h.object.1 h.object.2 .object
  · exact h.settle (h.variableRef scope context).1 (h.variableRef scope context).2 .var
  · exact h.behavior scope context

theorem contextAfter_eq (context : Option String) :
    a.contextAfter context = a'.contextAfter context := by
  unfold Argument.contextAfter
  rw [h.parameter, h.identifier?_eq]

end Argument.Alike

/-! ### Calls -/

section

variable {ctx : Context} {callee callee' : Callee} {es es' : List Expr} {s s' : Span}

theorem Context.lookup_form (ctx : Context) (callee : Callee) :
    ctx.lookup callee.form = ctx.lookup callee := by
  cases callee <;> rfl

theorem Callee.impliedParameters_form (callee : Callee) :
    callee.form.impliedParameters = callee.impliedParameters := by
  cases callee <;> rfl

theorem Callee.object?_form (callee : Callee) :
    callee.form.object?.map (·.text) = callee.object?.map (·.text) := by
  cases callee <;> rfl

theorem Callee.function_form (callee : Callee) :
    callee.form.function.text = callee.function.text := by
  cases callee <;> rfl

/-- Alike calls resolve alike. -/
structure AlikeResolutions (s s' : Span) (r r' : Resolution) : Prop where
  type : r.type = r'.type
  outcome : (∃ f, r.outcome = .ok f ∧ r'.outcome = .ok f) ∨
    ∃ d d', r.outcome = .error d ∧ r'.outcome = .error d' ∧ d.toldAt s = d'.toldAt s'

theorem Context.capabilityProblem?_form (ctx : Context) (callee : Callee) (type : String)
    (f : Signature) :
    (ctx.capabilityProblem? callee.form type f).map (·.problem) =
      (ctx.capabilityProblem? callee type f).map (·.problem) := by
  unfold capabilityProblem?
  cases callee with
  | free => rfl
  | onObject | onBehavior =>
    cases f.requiredCapability with
    | none => rfl
    | some capability =>
      dsimp only [Callee.form, Callee.object?]
      split <;> rfl

theorem countProblem?_alike (h : callee.form = callee'.form) (hlen : es.length = es'.length)
    (f : Signature) :
    (countProblem? callee f es s).map (·.problem) =
      (countProblem? callee' f es' s').map (·.problem) := by
  have himplied : callee.impliedParameters = callee'.impliedParameters := by
    rw [← callee.impliedParameters_form, h, callee'.impliedParameters_form]
  unfold countProblem?
  dsimp only
  rw [himplied, hlen]
  split
  · rfl
  · have hdrop := congrArg (· - (f.countRange callee'.impliedParameters).2) hlen
    rw [← List.length_drop, ← List.length_drop] at hdrop
    split
    next hnil =>
      rw [hnil] at hdrop
      rw [List.length_eq_zero_iff.1 hdrop.symm]
    next extra rest hextra =>
      rw [hextra] at hdrop
      obtain ⟨extra', rest', hextra'⟩ := List.exists_cons_of_length_pos
        (l := es'.drop (f.countRange callee'.impliedParameters).2) (by rw [← hdrop]; simp)
      rw [hextra']
      rfl

/-- A problem that is no type error covers nothing. -/
theorem toldAt_of_code_ne {d d' : Diagnostic} (h : d.problem = d'.problem)
    (hd : d.code ≠ .typeError) : d.toldAt s = d'.toldAt s' := by
  have hd' : d'.code ≠ .typeError := by
    rw [Diagnostic.code, ← h]
    exact hd
  simp [Diagnostic.toldAt, h, hd, hd']

/-- Alike calls resolve alike: to the same function, or to problems that are told alike. -/
theorem Context.resolve_alike (hcallee : callee.form = callee'.form)
    (hlen : es.length = es'.length) (expected : SemanticType) :
    AlikeResolutions s s' (ctx.resolve expected callee es s)
      (ctx.resolve expected callee' es' s') := by
  have hlookup : ctx.lookup callee = ctx.lookup callee' := by
    rw [← ctx.lookup_form callee, hcallee, ctx.lookup_form]
  have hfunction : callee.function.text = callee'.function.text := by
    rw [← callee.function_form, hcallee, callee'.function_form]
  have hcapable : ∀ type f, (ctx.capabilityProblem? callee type f).map (·.problem) =
      (ctx.capabilityProblem? callee' type f).map (·.problem) := by
    intro type f
    rw [← ctx.capabilityProblem?_form callee, hcallee, ctx.capabilityProblem?_form]
  unfold resolve
  dsimp only
  rw [hlookup, hfunction]
  cases hfound : (ctx.lookup callee').signature with
  | none => exact ⟨rfl, .inr ⟨_, _, rfl, rfl, toldAt_self _ _ _⟩⟩
  | some f =>
    dsimp only
    have hcapable := hcapable (ctx.lookup callee').objectType f
    have hcount : (countProblem? callee f es s).map (·.problem) =
        (countProblem? callee' f es' s').map (·.problem) := countProblem?_alike hcallee hlen f
    cases hc : ctx.capabilityProblem? callee (ctx.lookup callee').objectType f with
    | some d =>
      rw [hc] at hcapable
      obtain ⟨d', hd', hproblem⟩ := Option.map_eq_some_iff.1 hcapable.symm
      rw [hd']
      obtain ⟨object, capability, -, rfl⟩ := eq_of_capabilityProblem? hc
      exact ⟨rfl, .inr ⟨_, _, rfl, rfl, toldAt_of_code_ne hproblem.symm nofun⟩⟩
    | none =>
      rw [hc] at hcapable
      rw [Option.map_eq_none_iff.1 hcapable.symm]
      dsimp only
      split
      · cases hn : countProblem? callee f es s with
        | some d =>
          rw [hn] at hcount
          obtain ⟨d', hd', hproblem⟩ := Option.map_eq_some_iff.1 hcount.symm
          rw [hd']
          have hcode : d.code ≠ .typeError := by
            obtain ⟨least, most, rfl⟩ | ⟨least, most, extra, rest, -, rfl⟩ := eq_of_countProblem? hn
            · exact nofun
            · exact nofun
          exact ⟨rfl, .inr ⟨_, _, rfl, rfl, toldAt_of_code_ne hproblem.symm hcode⟩⟩
        | none =>
          rw [hn] at hcount
          rw [Option.map_eq_none_iff.1 hcount.symm]
          exact ⟨rfl, .inl ⟨f, rfl, rfl⟩⟩
      · exact ⟨rfl, .inr ⟨_, _, rfl, rfl, toldAt_self _ _ _⟩⟩

end

end EventSheet
