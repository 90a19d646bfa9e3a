import EventSheet.Proofs.Reading.Form
import EventSheet.Proofs.Reading.Likeness
import EventSheet.Proofs.Typing.Attribution
import EventSheet.Proofs.Typing.Correctness
import EventSheet.Proofs.Typing.Lost

/-!
# Objects that names in arguments belong to

A variable of an object and a behavior are written behind their object. The name in an argument
belongs to the object that was named last before it among the arguments of the same call, or else to
the object that the call is made on: `Callee.contextAt`. Nothing else in the arguments counts, such
as calls nested in them or what stands in the place of an object and is no name.

What is reported of such a name is thereby told in closed form: `argument_context`. It is looked
for at the span of the argument. That is enough, because only the call that an argument is written
in tells of the objects of names at the span of the argument.
-/

namespace EventSheet

/-- A report tells of a problem at a place. -/
def Report.Tells (r : Report) (code : Code) (s : Span) : Prop :=
  ∃ d ∈ r.diagnostics, d.code = code ∧ d.span = s

/-- The object that the name in an argument of a call belongs to. -/
def Callee.contextAt (callee : Callee) (f : Signature) (es : List Expr) (i : Nat) :
    Option String :=
  objectBehind (callee.object?.map (·.text)) ((callee.paired f es).take i)

/-! ### Nodes -/

/-- A call that passes its checks tells that the name in one of its arguments is not found. -/
inductive Expr.Loses (ctx : Context) (t : SemanticType) : Expr → Diagnostic → Prop
  | call {callee : Callee} {es : List Expr} {s : Span} {f : Signature} {i : Nat} {c : Expr}
      {p : Parameter} {d : Diagnostic} : (ctx.resolve t callee es s).outcome = .ok f →
      (callee.paired f es)[i]? = some (c, p) →
      (written ctx c p (1 + i)).Lost ctx.scope (callee.contextAt f es i) d →
      Loses ctx t (.call callee es s) d

section

variable {ctx : Context} {e c m n : Expr} {t u : SemanticType} {d : Diagnostic}

theorem Callee.mem_of_paired {callee : Callee} {f : Signature} {es : List Expr} {i : Nat}
    {p : Parameter} (h : (callee.paired f es)[i]? = some (c, p)) : c ∈ es :=
  List.mem_of_getElem? (paired_eq_some_iff.1 h).1

theorem mem_checkArguments_iff {callee : Callee} {f : Signature} {es : List Expr} :
    d ∈ checkArguments ctx (callee.object?.map (·.text)) 1 es
        (f.written callee.impliedParameters) ↔
      ∃ i c p, (callee.paired f es)[i]? = some (c, p) ∧
        d ∈ (written ctx c p (1 + i)).diagnostics ctx.scope (callee.contextAt f es i) := by
  rw [checkArguments_eq_flatMap, List.mem_flatMap]
  constructor
  · rintro ⟨⟨⟨c, p⟩, i⟩, hx, hd⟩
    exact ⟨i, c, p, List.mem_zipIdx_iff_getElem?.1 hx, hd⟩
  · rintro ⟨i, c, p, hi, hd⟩
    exact ⟨⟨⟨c, p⟩, i⟩, List.mem_zipIdx_iff_getElem?.2 hi, hd⟩

/-- What stops a call is not about the objects of names. -/
theorem Context.outcome_not_isContextual {callee : Callee} {es : List Expr} {s : Span}
    (h : (ctx.resolve t callee es s).outcome = .error d) : d.code.isContextual = false := by
  unfold resolve at h
  dsimp only at h
  repeat' split at h
  · cases h
    rfl
  next hcapable =>
    cases h
    obtain ⟨object, capability, -, rfl⟩ := eq_of_capabilityProblem? hcapable
    rfl
  next hcount =>
    cases h
    obtain ⟨least, most, rfl⟩ | ⟨least, most, extra, rest, -, rfl⟩ := eq_of_countProblem? hcount
    · rfl
    · rfl
  · exact nomatch h
  · cases h
    rfl

theorem signProblem?_not_isContextual {p : Problem} (h : signProblem? t = some p) :
    p.code.isContextual = false := by
  unfold signProblem? at h
  repeat' split at h
  · cases h
    rfl
  · exact nomatch h
  · cases h
    rfl

theorem operatorProblem?_not_isContextual {operator : Operator} {p : Problem}
    (h : operatorProblem? operator t = some p) : p.code.isContextual = false := by
  unfold operatorProblem? at h
  split at h
  · cases h
    rfl
  · exact nomatch h

section

variable (hd : d.code.isContextual = true)

include hd

theorem Expr.mem_check_call_iff {callee : Callee} {es : List Expr} {s : Span} :
    d ∈ ((call callee es s).check ctx t).diagnostics ↔
      (call callee es s).Loses ctx t d ∨
        ∃ x ∈ (call callee es s).visits ctx t, d ∈ (x.1.check ctx x.2).diagnostics := by
  rw [check, visits]
  cases houtcome : (ctx.resolve t callee es s).outcome with
  | error own =>
    have hpassed : ¬ (call callee es s).Loses ctx t d := by
      rintro ⟨hok⟩
      rw [houtcome] at hok
      cases hok
    have hother : d ≠ own :=
      Diagnostic.ne_of_isContextual hd (Context.outcome_not_isContextual houtcome)
    simp [hpassed, hother, mem_checkLoosely_iff]
  | ok f =>
    dsimp only
    rw [mem_checkArguments_iff]
    constructor
    · rintro ⟨i, c, p, hi, hmem⟩
      rcases (Argument.mem_diagnostics_iff hd).1 hmem with hlost | ⟨u, hu, hinside⟩
      · exact .inl (.call houtcome hi hlost)
      · exact .inr ⟨(c, u), mem_visitedArguments_iff.2 ⟨p, List.mem_of_getElem? hi, hu⟩, hinside⟩
    · rintro (⟨hok, hi, hlost⟩ | ⟨⟨c, u⟩, hvisited, hinside⟩)
      · cases houtcome.symm.trans hok
        exact ⟨_, _, _, hi, (Argument.mem_diagnostics_iff hd).2 (.inl hlost)⟩
      · obtain ⟨p, hp, hu⟩ := mem_visitedArguments_iff.1 hvisited
        obtain ⟨i, hi⟩ := List.mem_iff_getElem?.1 hp
        exact ⟨i, c, p, hi, (Argument.mem_diagnostics_iff hd).2 (.inr ⟨u, hu, hinside⟩)⟩

theorem not_mem_own {problem? : Option Problem} {s : Span}
    (h : ∀ p, problem? = some p → p.code.isContextual = false) :
    d ∉ (problem?.map (Diagnostic.mk · s)).toList := by
  intro hmem
  obtain ⟨p, hp, rfl⟩ := exists_of_mem_toList hmem
  exact nomatch hd.symm.trans (h p hp)

theorem Expr.mem_check_access_iff {name : Name} {as : List Accessor} {s : Span} :
    d ∈ ((access name as s).check ctx t).diagnostics ↔
      ∃ x ∈ (access name as s).visits ctx t, d ∈ (x.1.check ctx x.2).diagnostics := by
  have hown : d ∉ (checkAccess [] t s).diagnostics.head?.toList := by
    intro h
    have hmem := List.mem_of_mem_head? (Option.mem_toList.1 h)
    rcases eq_or_mem_of_mem_checkAccess hmem with hnil | rfl
    · cases hnil
    · cases hd
  rw [check, visits, checkAccess_eq_own, List.mem_append, or_iff_left hown, mem_checkIndices_iff]
  simp

theorem Expr.mem_check_unary_iff {sign : Sign} {a : Expr} {s : Span} :
    d ∈ ((unary sign a s).check ctx t).diagnostics ↔
      ∃ x ∈ (unary sign a s).visits ctx t, d ∈ (x.1.check ctx x.2).diagnostics := by
  have hmisplaced : d ≠ ⟨.misplacedOperator t, s⟩ := Diagnostic.ne_of_isContextual hd rfl
  have hsign : d ∉ ((signProblem? t).map (Diagnostic.mk · s)).toList :=
    not_mem_own hd fun _ => signProblem?_not_isContextual
  rw [check, visits]
  split
  · simp [hmisplaced]
  · simp only [List.mem_append, hsign, false_or, List.mem_singleton, exists_eq_left]

theorem Expr.mem_check_binary_iff {operator : Operator} {a b : Expr} {s : Span} :
    d ∈ ((binary operator a b s).check ctx t).diagnostics ↔
      ∃ x ∈ (binary operator a b s).visits ctx t, d ∈ (x.1.check ctx x.2).diagnostics := by
  have hmisplaced : d ≠ ⟨.misplacedOperator t, s⟩ := Diagnostic.ne_of_isContextual hd rfl
  have hoperator (operation : SemanticType) :
      d ∉ ((operatorProblem? operator operation).map (Diagnostic.mk · s)).toList :=
    not_mem_own hd fun _ => operatorProblem?_not_isContextual
  rw [check, visits]
  split
  · simp [hmisplaced]
  · simp only [List.mem_append, hoperator, false_or, List.mem_cons, List.not_mem_nil, or_false,
      exists_eq_or_imp, exists_eq_left]

/-- What is told at a node of the objects of names comes from the arguments of the node, when it is
a call, or from what is checked below it. -/
theorem Expr.mem_check_iff :
    d ∈ (e.check ctx t).diagnostics ↔
      e.Loses ctx t d ∨ ∃ x ∈ e.visits ctx t, d ∈ (x.1.check ctx x.2).diagnostics := by
  have hown (p : Problem) (s : Span) (hp : p.code.isContextual = false) : d ≠ ⟨p, s⟩ :=
    Diagnostic.ne_of_isContextual hd hp
  have hleaf {e : Expr} (hcall : ¬ e.Loses ctx t d) (hvisits : e.visits ctx t = []) :
      ¬ (e.Loses ctx t d ∨ ∃ x ∈ e.visits ctx t, d ∈ (x.1.check ctx x.2).diagnostics) := by
    rintro (h | ⟨x, hx, -⟩)
    · exact hcall h
    · rw [hvisits] at hx
      cases hx
  cases e with
  | number text s | string value s =>
    rw [check]
    exact iff_of_false (fun h => hown _ s rfl (eq_of_mem_checkLiteral h)) (hleaf nofun rfl)
  | identifier name s =>
    rw [check]
    exact iff_of_false (fun h => hown _ s rfl (eq_of_mem_checkIdentifier h)) (hleaf nofun rfl)
  | empty s =>
    rw [check]
    exact iff_of_false (fun h => hown _ s rfl (eq_of_mem_checkEmpty h)) (hleaf nofun rfl)
  | error reason text s =>
    rw [check]
    exact iff_of_false List.not_mem_nil (hleaf nofun rfl)
  | access name as s => rw [or_iff_right nofun, mem_check_access_iff hd]
  | unary sign a s => rw [or_iff_right nofun, mem_check_unary_iff hd]
  | binary operator a b s => rw [or_iff_right nofun, mem_check_binary_iff hd]
  | call callee es s => exact mem_check_call_iff hd

omit hd in
theorem Expr.Loses.exists_child (h : e.Loses ctx t d) : ∃ c ∈ e.children, d.span = c.span := by
  obtain ⟨-, hpaired, hlost⟩ := h
  exact ⟨_, Callee.mem_of_paired hpaired, hlost.span⟩

/-- What is told of the objects of names is told below the node that is checked. -/
theorem Expr.exists_descendant_of_mem_check (h : d ∈ (e.check ctx t).diagnostics) :
    ∃ m ∈ e.descendants, d.span = m.span := by
  induction e using Expr.induction_children generalizing t with
  | step e ih =>
    rcases (mem_check_iff hd).1 h with hlost | ⟨x, hx, hmem⟩
    · obtain ⟨c, hc, hspan⟩ := hlost.exists_child
      exact ⟨c, mem_descendants_iff.2 ⟨c, hc, .head _⟩, hspan⟩
    · have hchild := mem_children_of_visits hx
      obtain ⟨m, hm, hspan⟩ := ih x.1 hchild hmem
      exact ⟨m, mem_descendants_iff.2 ⟨x.1, hchild, .tail _ hm⟩, hspan⟩

/-- Where spans tell nodes apart, what is told below a node of the objects of names is told when the
node is checked. -/
theorem Expr.Visits.mem_check_iff (h : e.Visits ctx t n u) (he : e.Distinct)
    (hm : m ∈ n.descendants) (hspan : d.span = m.span) :
    d ∈ (e.check ctx t).diagnostics ↔ d ∈ (n.check ctx u).diagnostics := by
  induction h with
  | refl => exact Iff.rfl
  | @step e c n t u v hc hn ih =>
    have hchild := mem_children_of_visits hc
    have hbelow : m ∈ c.descendants := descendants_trans hm hn.mem_nodes
    rw [← ih (he.child hchild) hm, Expr.mem_check_iff hd]
    constructor
    · rintro (hlost | ⟨x, hx, hmem⟩)
      -- What the node above tells stands at one of its own arguments, and nothing below them does.
      · obtain ⟨b, hb, hsame⟩ := hlost.exists_child
        exact absurd (hspan.symm.trans hsame) (he.below_child_ne hchild hb hbelow)
      -- What is told below another child stands there, so that it is this one.
      · obtain ⟨m', hm', hsame⟩ := exists_descendant_of_mem_check hd hmem
        have hplace := hspan.symm.trans hsame
        cases he.visits_eq hc hx (.tail _ hbelow) (.tail _ hm') hplace
        exact hmem
    · exact fun hmem => .inr ⟨(c, u), hc, hmem⟩

/-- At the span of an argument, only the call that it is written in tells of the objects of
names. -/
theorem Expr.Distinct.mem_check_call_iff {callee : Callee} {es : List Expr} {s : Span}
    {f : Signature} {i : Nat} {p : Parameter} (he : (Expr.call callee es s).Distinct)
    (hok : (ctx.resolve t callee es s).outcome = .ok f)
    (hpaired : (callee.paired f es)[i]? = some (c, p)) (hspan : d.span = c.span) :
    d ∈ ((Expr.call callee es s).check ctx t).diagnostics ↔
      (written ctx c p (1 + i)).Lost ctx.scope (callee.contextAt f es i) d := by
  have hc : c ∈ (Expr.call callee es s).children := Callee.mem_of_paired hpaired
  rw [Expr.mem_check_iff hd]
  constructor
  · rintro (⟨hok', hpaired', hlost⟩ | ⟨x, hx, hmem⟩)
    · cases hok.symm.trans hok'
      have hsame := hspan.symm.trans hlost.span
      cases he.children.index_eq (Callee.paired_eq_some_iff.1 hpaired).1
        (Callee.paired_eq_some_iff.1 hpaired').1 hsame
      cases hpaired.symm.trans hpaired'
      exact hlost
    · obtain ⟨m, hm, hsame⟩ := exists_descendant_of_mem_check hd hmem
      have hplace := hsame.symm.trans hspan
      exact absurd hplace (he.below_child_ne (mem_children_of_visits hx) hc hm)
  · exact fun hlost => .inl (.call hok hpaired hlost)

end

end

/-! ### Reports -/

/-- An argument that does not name an object leaves what names behind it belong to as it is. -/
theorem Callee.contextAt_succ {callee : Callee} {f : Signature} {es : List Expr} {i : Nat}
    {c : Expr} {p : Parameter} (hpaired : (callee.paired f es)[i]? = some (c, p))
    (h : c.identifier? = none ∨ ParameterFamily.ofKind? p.kind ≠ some .object) :
    callee.contextAt f es (i + 1) = callee.contextAt f es i := by
  have hnone : namedObject? (c, p) = none := by
    unfold namedObject?
    split
    next hobject => exact h.resolve_right (absurd hobject)
    next => rfl
  rw [contextAt, contextAt, List.take_add_one, hpaired, Option.toList_some, objectBehind_append,
    objectBehind_cons, hnone, Option.none_or, objectBehind_nil]

section

variable {ctx : Context} {expected : SemanticType} {source : String}

theorem mem_checkText_iff {d : Diagnostic} (hd : d.code.isContextual = true) :
    d ∈ (checkText ctx expected source).diagnostics ↔
      d ∈ ((parse source).root.check ctx expected).diagnostics := by
  have hread : d ∉ (parse source).diagnostics := by
    intro h
    exact nomatch (parse_isForm h).symm.trans (Code.isForm_of_isContextual hd)
  exact List.mem_append.trans (or_iff_right hread)

/-- What a report tells at the span of an argument of the objects of names is told of the name in
the argument. -/
theorem checkText_tells_iff {callee : Callee} {es : List Expr} {s : Span} {u : SemanticType}
    {f : Signature} {i : Nat} {c : Expr} {p : Parameter} {code : Code}
    (hcall : (parse source).root.Visits ctx expected (.call callee es s) u)
    (hok : (ctx.resolve u callee es s).outcome = .ok f)
    (hpaired : (callee.paired f es)[i]? = some (c, p)) (hcode : code.isContextual = true) :
    (checkText ctx expected source).Tells code c.span ↔
      ∃ d, (written ctx c p (1 + i)).Lost ctx.scope (callee.contextAt f es i) d ∧
        d.code = code := by
  have hdistinct := parse_distinct source
  have hbelow : c ∈ (Expr.call callee es s).descendants :=
    Expr.mem_descendants_iff.2 ⟨c, Callee.mem_of_paired hpaired, .head _⟩
  have htold (d : Diagnostic) (hd : d.code = code) (hspan : d.span = c.span) :
      d ∈ (checkText ctx expected source).diagnostics ↔
        (written ctx c p (1 + i)).Lost ctx.scope (callee.contextAt f es i) d := by
    have hcontextual : d.code.isContextual = true := by rw [hd, hcode]
    rw [mem_checkText_iff hcontextual, hcall.mem_check_iff hcontextual hdistinct hbelow hspan,
      (hdistinct.of_mem_nodes hcall.mem_nodes).mem_check_call_iff hcontextual hok hpaired hspan]
  constructor
  · rintro ⟨d, hmem, hd, hspan⟩
    exact ⟨d, (htold d hd hspan).1 hmem, hd⟩
  · rintro ⟨d, hlost, hd⟩
    exact ⟨d, (htold d hd hlost.span).2 hlost, hd, hlost.span⟩

end

/-- Every call in a text is checked where one type is required. Where it passes its checks there,
what is reported of the object that the name in an argument belongs to is this, and an argument that
does not name an object changes nothing for those behind it. -/
theorem argument_context {source : String} {callee : Callee} {es : List Expr} {s : Span}
    (hcall : .call callee es s ∈ (parse source).root.nodes) (ctx : Context)
    (expected : SemanticType) :
    ∃ u, (∀ v, (parse source).root.Visits ctx expected (.call callee es s) v ↔ v = u) ∧
      ∀ f, Callable ctx callee es f → (SemanticType.ofKind f.returnKind).returnsFor u = true →
        ∀ i c p, (callee.paired f es)[i]? = some (c, p) →
          ((checkText ctx expected source).Tells .missingObjectContext c.span ↔
            callee.contextAt f es i = none ∧
              ((p.kind = objectVariableKind ∧ ∃ name, c.variable? = some name) ∨
                (ParameterFamily.ofKind? p.kind = some .behavior ∧
                  ∃ name, c.identifier? = some name))) ∧
          ((checkText ctx expected source).Tells .invalidBehaviorName c.span ↔
            ParameterFamily.ofKind? p.kind = some .behavior ∧
              ∃ name object, c.identifier? = some name ∧
                callee.contextAt f es i = some object ∧
                  ctx.scope.behaviorType object name = none) ∧
          ((checkText ctx expected source).Tells .undeclaredObjectVariable c.span ↔
            p.kind = objectVariableKind ∧
              ∃ name object declared, c.variable? = some name ∧
                callee.contextAt f es i = some object ∧
                  ctx.scope.objectVariables object = some declared ∧ name ∉ declared) ∧
          (c.identifier? = none ∨ ParameterFamily.ofKind? p.kind ≠ some .object →
            callee.contextAt f es (i + 1) = callee.contextAt f es i) := by
  obtain ⟨u, hu⟩ := (parse_distinct source).visits_call_iff hcall ctx expected
  refine ⟨u, hu, fun f hcallable hreturns i c p hpaired => ?_⟩
  have hok : (ctx.resolve u callee es s).outcome = .ok f :=
    Context.outcome_eq_ok_iff.2 ⟨hcallable, hreturns⟩
  have htells {code : Code} (hcode : code.isContextual = true) :=
    checkText_tells_iff ((hu u).2 rfl) hok hpaired hcode
  rw [htells rfl, htells rfl, htells rfl]
  exact ⟨Argument.exists_lost_missingObjectContext_iff,
    Argument.exists_lost_invalidBehaviorName_iff,
    Argument.exists_lost_undeclaredObjectVariable_iff, Callee.contextAt_succ hpaired⟩

/-- A behavior that the object before it does not have. -/
theorem argument_context_pick :
    (parse "Pick(Player, Fly)").root =
        .call (.free ⟨"Pick", ⟨0, 4⟩⟩) [.identifier "Player" ⟨5, 11⟩, .identifier "Fly" ⟨13, 16⟩]
          ⟨0, 17⟩ ∧
      (checkText .sample .number "Pick(Player, Fly)").Tells .invalidBehaviorName ⟨13, 16⟩ := by
  let callee : Callee := .free ⟨"Pick", ⟨0, 4⟩⟩
  let es : List Expr := [.identifier "Player" ⟨5, 11⟩, .identifier "Fly" ⟨13, 16⟩]
  let f : Signature :=
    ⟨"Pick", "number", [.required "object", .required "behavior"], none, ""⟩
  have hroot : (parse "Pick(Player, Fly)").root = .call callee es ⟨0, 17⟩ := by
    with_unfolding_all rfl
  have hcall : .call callee es ⟨0, 17⟩ ∈ (parse "Pick(Player, Fly)").root.nodes := by
    rw [hroot]
    exact .head _
  have hfound : (Context.sample.lookup callee).signature = some f := by decide +kernel
  have hcallable : Callable .sample callee es f :=
    ⟨hfound, nofun, by decide +kernel, by decide +kernel⟩
  have hbehavior : ParameterFamily.ofKind? "behavior" = some .behavior := by decide +kernel
  have hcontext : callee.contextAt f es 1 = some "Player" := by decide +kernel
  have hnone : Context.sample.scope.behaviorType "Player" "Fly" = none := by decide +kernel
  obtain ⟨u, hu, hargument⟩ := argument_context hcall .sample .number
  have hrequired : SemanticType.number = u := by
    rw [← hu, hroot]
    exact .refl
  subst hrequired
  exact ⟨hroot, (hargument f hcallable (by decide +kernel) 1 (.identifier "Fly" ⟨13, 16⟩)
    (.required "behavior") rfl).2.1.2 ⟨hbehavior, "Fly", "Player", rfl, hcontext, hnone⟩⟩

end EventSheet
