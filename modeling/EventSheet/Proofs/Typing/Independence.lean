import EventSheet.Proofs.Catalog.Registration
import EventSheet.Proofs.Typing.Telling
import EventSheet.Report.Basic

/-!
# What checking asks of a provider

Checking a tree asks a provider for the functions that its calls name and for what the objects they
are made on lack, and for nothing else. So providers that answer alike for the calls of a tree give
the same verdict on it, and an extension that declares none of what they could be about changes
nothing: `checkText_add`.
-/

namespace EventSheet

/-! ### Providers that answer alike -/

/-- Two providers resolve a call alike, wherever it is written and whatever its arguments are. -/
def ResolveAlike (p q : Provider) (scope : Scope) (callee : Callee) : Prop :=
  ∀ expected arguments s,
    Context.resolve ⟨q, scope⟩ expected callee arguments s =
      Context.resolve ⟨p, scope⟩ expected callee arguments s

section

variable {p q : Provider} {scope : Scope}

/-- Resolving a call asks for its function and for what its object lacks. -/
theorem ResolveAlike.of_lookup {callee : Callee}
    (hlookup : Context.lookup ⟨q, scope⟩ callee = Context.lookup ⟨p, scope⟩ callee)
    (hlacks : callee.object?.isSome = true → ∀ capability,
      q.lacks (Context.lookup ⟨p, scope⟩ callee).objectType capability =
        p.lacks (Context.lookup ⟨p, scope⟩ callee).objectType capability) :
    ResolveAlike p q scope callee := by
  have hcapability : ∀ s,
      Context.capabilityProblem? ⟨q, scope⟩ callee
          (Context.lookup ⟨p, scope⟩ callee).objectType s =
        Context.capabilityProblem? ⟨p, scope⟩ callee
          (Context.lookup ⟨p, scope⟩ callee).objectType s := by
    intro s
    unfold Context.capabilityProblem?
    cases hobject : callee.object? with
    | none => rfl
    | some object =>
      cases s.requiredCapability with
      | none => rfl
      | some capability =>
        dsimp only
        rw [hlacks (by rw [hobject]; rfl)]
  intro expected arguments s
  unfold Context.resolve
  rw [hlookup]
  simp only [hcapability]

/-- Two providers give the same verdicts on an expression. -/
def CheckAlike (p q : Provider) (scope : Scope) (e : Expr) : Prop :=
  ∀ expected, e.check ⟨q, scope⟩ expected = e.check ⟨p, scope⟩ expected

theorem checkArguments_of_alike {es : List Expr} (h : ∀ e ∈ es, CheckAlike p q scope e)
    (context : Option String) (position : Nat) (ps : List Parameter) :
    checkArguments ⟨q, scope⟩ context position es ps =
      checkArguments ⟨p, scope⟩ context position es ps := by
  induction es generalizing context position ps with
  | nil => simp only [checkArguments]
  | cons e es ih =>
    cases ps with
    | nil => simp only [checkArguments]
    | cons parameter ps =>
      have hcheck : (fun expected => e.check ⟨q, scope⟩ expected) =
          fun expected => e.check ⟨p, scope⟩ expected :=
        funext fun expected => h e (.head _) expected
      rw [checkArguments, checkArguments, hcheck, ih fun c hc => h c (.tail _ hc)]

theorem checkLoosely_of_alike {es : List Expr} (h : ∀ e ∈ es, CheckAlike p q scope e) :
    checkLoosely ⟨q, scope⟩ es = checkLoosely ⟨p, scope⟩ es := by
  rw [checkLoosely_eq_flatMap, checkLoosely_eq_flatMap]
  exact List.flatMap_congr fun e he => congrArg Verdict.diagnostics (h e he .unknown)

theorem checkIndices_of_alike {as : List Accessor} (h : ∀ e ∈ indices as, CheckAlike p q scope e) :
    checkIndices ⟨q, scope⟩ as = checkIndices ⟨p, scope⟩ as := by
  rw [checkIndices_eq_flatMap, checkIndices_eq_flatMap]
  exact List.flatMap_congr fun e he => congrArg Verdict.diagnostics (h e he .numberOrString)

/-- Two providers resolve every call of an expression alike. -/
def CallsAlike (p q : Provider) (scope : Scope) (e : Expr) : Prop :=
  ∀ callee arguments s, Expr.call callee arguments s ∈ e.nodes → ResolveAlike p q scope callee

theorem CallsAlike.child {e c : Expr} (h : CallsAlike p q scope e) (hc : c ∈ e.children) :
    CallsAlike p q scope c :=
  fun callee arguments s hn => h callee arguments s (Expr.mem_nodes_of_child hc hn)

/-- The verdict on an expression depends on the provider only by how its calls are resolved. -/
theorem CallsAlike.check {e : Expr} (h : CallsAlike p q scope e) : CheckAlike p q scope e := by
  induction e with
  | number | string | identifier | empty | error =>
    intro expected
    simp only [Expr.check]
  | access name as s ih =>
    intro expected
    have hinside := checkIndices_of_alike fun c hc => ih c hc (h.child hc)
    rw [Expr.check, Expr.check, hinside]
  | unary sign e s ih =>
    intro expected
    have he := ih (h.child (.head _))
    rw [Expr.check, Expr.check, he .unknown, he .number]
  | binary operator a b s iha ihb =>
    intro expected
    have ha := iha (h.child (.head _))
    have hb := ihb (h.child (.tail _ (.head _)))
    -- what is required of the right operand depends on the verdict on the left one
    simp only [Expr.check, ha expected, ha .unknown, hb .unknown]
    rw [hb]
  | call callee es s ih =>
    intro expected
    have hes : ∀ e ∈ es, CheckAlike p q scope e := fun e he => ih e he (h.child he)
    simp only [Expr.check, h callee es s (.head _) expected, checkLoosely_of_alike hes,
      checkArguments_of_alike hes]

end

/-! ### Unrelated extensions -/

/-- An extension declares nothing that a call could be about: not the function of a call that stands
alone; no entry of the type of the object and no function of the base object under that name; no
function of that name for the type of the behavior and no entry of the type of its object. A name
that is not declared has the empty type. -/
def Extension.Spares (e : Extension) (scope : Scope) : Callee → Prop
  | .free function => ∀ s ∈ e.functions, s.name ≠ function.text
  | .onObject object function =>
    (∀ t ∈ e.objects, t.name ≠ (scope.objectType object.text).getD "") ∧
      ∀ t ∈ e.objects, t.name = baseObjectType → ∀ s ∈ t.functions, s.name ≠ function.text
  | .onBehavior object behavior function =>
    (∀ t ∈ e.behaviors, t.name = (scope.behaviorType object.text behavior.text).getD "" →
        ∀ s ∈ t.functions, s.name ≠ function.text) ∧
      ∀ t ∈ e.objects, t.name ≠ (scope.objectType object.text).getD ""

instance Extension.decidableSpares (e : Extension) (scope : Scope) (callee : Callee) :
    Decidable (e.Spares scope callee) :=
  match callee with
  | .free _ => inferInstanceAs (Decidable (∀ s ∈ e.functions, _))
  | .onObject _ _ => inferInstanceAs (Decidable (_ ∧ ∀ t ∈ e.objects, _))
  | .onBehavior _ _ _ => inferInstanceAs (Decidable ((∀ t ∈ e.behaviors, _) ∧ _))

namespace Platform

section

variable (p : Platform) {e : Extension} {type name : String}

theorem freeFunction_add_of_undeclared (h : ∀ s ∈ e.functions, s.name ≠ name) :
    (p.add e).freeFunction name = p.freeFunction name := by
  have hnone : lastNamed name ([e].flatMap (·.functions)) = none :=
    lastNamed_eq_none_iff.2 (by simpa using h)
  have hadd := freeFunction_addAll p [e] name
  rwa [hnone] at hadd

theorem owned_objects_add_of_undeclared
    (h : ∀ t ∈ e.objects, t.name = type → ∀ s ∈ t.functions, s.name ≠ name) :
    owned (p.add e).objects type name = owned p.objects type name := by
  have hnone : lastNamed name (objectFunctions [e] type) = none :=
    lastNamed_eq_none_iff.2
      (by simpa [objectFunctions] using fun s t ht hname hs => h t ht hname s hs)
  have hadd := owned_objects_addAll p [e] type name
  rwa [hnone] at hadd

theorem objectFunction_add_of_undeclared (htype : ∀ t ∈ e.objects, t.name ≠ type)
    (hbase : ∀ t ∈ e.objects, t.name = baseObjectType → ∀ s ∈ t.functions, s.name ≠ name) :
    (p.add e).objectFunction type name = p.objectFunction type name := by
  have hnone : ∀ t ∈ e.objects, t.name = type → ∀ s ∈ t.functions, s.name ≠ name :=
    fun t ht hname => absurd hname (htype t ht)
  rw [objectFunction, owned_objects_add_of_undeclared p hnone,
    owned_objects_add_of_undeclared p hbase, objectFunction]

theorem behaviorFunction_add_of_undeclared
    (h : ∀ t ∈ e.behaviors, t.name = type → ∀ s ∈ t.functions, s.name ≠ name) :
    (p.add e).behaviorFunction type name = p.behaviorFunction type name := by
  have hnone : lastNamed name (behaviorFunctions [e] type) = none :=
    lastNamed_eq_none_iff.2
      (by simpa [behaviorFunctions] using fun s t ht hname hs => h t ht hname s hs)
  have hadd := behaviorFunction_addAll p [e] type name
  rwa [hnone] at hadd

theorem lacks_add_of_undeclared (h : ∀ t ∈ e.objects, t.name ≠ type) (capability : String) :
    (p.add e).provider.lacks type capability = p.provider.lacks type capability := by
  have hnone : lastRecord type ([e].flatMap (·.objects)) = none :=
    lastWhere_eq_none_iff.2 (by simpa using fun t ht hname => absurd hname (h t ht))
  have hadd := objectType_addAll p [e] type
  rw [hnone] at hadd
  exact congrArg (fun answer => (answer.map (·.lacks capability)).getD false) hadd

end

/-- An extension that spares a call does not change how it is resolved. -/
theorem resolveAlike_add (p : Platform) {e : Extension} {scope : Scope} {callee : Callee}
    (h : e.Spares scope callee) : ResolveAlike p.provider (p.add e).provider scope callee := by
  cases callee with
  | free function =>
    refine .of_lookup ?_ nofun
    exact congrArg (Lookup.mk · baseObjectType) (freeFunction_add_of_undeclared p h)
  | onObject object function =>
    obtain ⟨htype, hbase⟩ := h
    refine .of_lookup ?_ fun _ => lacks_add_of_undeclared p htype
    exact congrArg (Lookup.mk · _) (objectFunction_add_of_undeclared p htype hbase)
  | onBehavior object behavior function =>
    obtain ⟨hbehavior, htype⟩ := h
    refine .of_lookup ?_ fun _ => lacks_add_of_undeclared p htype
    exact congrArg (Lookup.mk · _) (behaviorFunction_add_of_undeclared p hbehavior)

/-- An extension that declares nothing any call of a text could be about does not change the tree,
the type or the diagnostics of the text. -/
theorem checkText_add (p : Platform) (e : Extension) (scope : Scope) (expected : SemanticType)
    (source : String)
    (h : ∀ callee arguments s, Expr.call callee arguments s ∈ (parse source).root.nodes →
      e.Spares scope callee) :
    checkText ⟨(p.add e).provider, scope⟩ expected source =
      checkText ⟨p.provider, scope⟩ expected source := by
  have hcalls : CallsAlike p.provider (p.add e).provider scope (parse source).root :=
    fun callee arguments s hn => resolveAlike_add p (h callee arguments s hn)
  simp only [checkText, hcalls.check expected]

/-- An extension about other types of objects, next to a text that calls a function of an object and
a function that stands alone. -/
theorem checkText_add_elsewhere :
    let p := empty.add ⟨"First", [.simple "Twice" "number" []],
      [⟨"Sprite", [.simple "Width" "number" ["object"]], []⟩], []⟩
    let e : Extension := ⟨"Second", [.simple "Thrice" "string" []],
      [⟨"Text", [.simple "Width" "string" ["object"]], ["size"]⟩], []⟩
    let scope : Scope := ⟨.empty, ⟨.ofList [("Hero", ⟨"Sprite", .empty, none⟩)], .empty⟩⟩
    (∀ callee arguments s,
        Expr.call callee arguments s ∈ (parse "Hero.Width() + Twice()").root.nodes →
          e.Spares scope callee) ∧
      checkText ⟨(p.add e).provider, scope⟩ .number "Hero.Width() + Twice()" =
        checkText ⟨p.provider, scope⟩ .number "Hero.Width() + Twice()" := by
  intro p e scope
  have hroot : (parse "Hero.Width() + Twice()").root =
      .binary .add
        (.call (.onObject ⟨"Hero", ⟨0, 4⟩⟩ ⟨"Width", ⟨5, 10⟩⟩) [] ⟨0, 12⟩)
        (.call (.free ⟨"Twice", ⟨15, 20⟩⟩) [] ⟨15, 22⟩) ⟨0, 22⟩ := by
    with_unfolding_all rfl
  have hspares : ∀ callee arguments s,
      Expr.call callee arguments s ∈ (parse "Hero.Width() + Twice()").root.nodes →
        e.Spares scope callee := by
    intro callee arguments s hn
    rw [hroot] at hn
    simp only [Expr.nodes, Expr.descendants, argumentNodes, List.mem_cons, List.not_mem_nil,
      List.nil_append, or_false, reduceCtorEq, false_or, Expr.call.injEq] at hn
    rcases hn with ⟨rfl, -⟩ | ⟨rfl, -⟩
    · decide
    · decide
  exact ⟨hspares, checkText_add p e scope .number _ hspares⟩

end Platform

end EventSheet
