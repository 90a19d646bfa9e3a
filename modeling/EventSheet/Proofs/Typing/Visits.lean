import EventSheet.Proofs.Syntax.Distinct
import EventSheet.Proofs.Typing.Pairing

/-!
# The walk over a tree

Checking a node checks its operands, arguments and indices, and requires a type of each of them:
`Expr.visits`. Only the bare name of a behavior is not checked as an expression. So where no two
nodes have the same span, every call in a tree is checked once, where one type is required of it:
`Expr.Distinct.visits_call_iff`.
-/

namespace EventSheet

/-- The variable that an expression names: a bare name or the name that accessors follow. -/
def Expr.variable? : Expr → Option String
  | .identifier name _ => some name
  | .access name _ _ => some name.text
  | _ => none

/-- The type that is required of an argument when it is checked as an expression. A name where a
name belongs is required to be an object or a variable, and the bare name of a behavior is not
checked as an expression. -/
def visitedAs (p : Parameter) (e : Expr) : Option SemanticType :=
  match ParameterFamily.ofKind? p.kind with
  | none => some .unknown
  | some .number => some .number
  | some .string => some .string
  | some .object => some (if e.identifier?.isSome then .object else .unknown)
  | some .var => some (if e.variable?.isSome then .var else .unknown)
  | some .behavior => if e.identifier?.isSome then none else some .unknown

/-- The arguments of a call that are checked as expressions, each with the type required of it. -/
def visitedArguments (pairs : List (Expr × Parameter)) : List (Expr × SemanticType) :=
  pairs.filterMap fun x => (visitedAs x.2 x.1).map (x.1, ·)

/-- What checking a node checks below it, each with the type required of it. -/
def Expr.visits (ctx : Context) (expected : SemanticType) : Expr → List (Expr × SemanticType)
  | .access _ as _ => (indices as).map (·, .numberOrString)
  | .unary _ a _ => [(a, if expected.refusesOperators then .unknown else .number)]
  | .binary _ a b _ =>
    if expected.refusesOperators then [(a, .unknown), (b, .unknown)]
    else
      [(a, expected),
        (b, rightExpected (operationType (a.check ctx expected).type expected) expected)]
  | .call callee es s =>
    match (ctx.resolve expected callee es s).outcome with
    | .error _ => es.map (·, .unknown)
    | .ok f => visitedArguments (callee.paired f es)
  | _ => []

/-- Checking an expression where a type is required comes to check a node where another type is
required. -/
inductive Expr.Visits (ctx : Context) : Expr → SemanticType → Expr → SemanticType → Prop
  | refl {e : Expr} {t : SemanticType} : Visits ctx e t e t
  | step {e c n : Expr} {t u v : SemanticType} : (c, u) ∈ e.visits ctx t → Visits ctx c u n v →
      Visits ctx e t n v

section

variable {ctx : Context} {e c n : Expr} {t u v : SemanticType}

theorem mem_visitedArguments_iff {pairs : List (Expr × Parameter)} :
    (e, t) ∈ visitedArguments pairs ↔ ∃ p, (e, p) ∈ pairs ∧ visitedAs p e = some t := by
  simp only [visitedArguments, List.mem_filterMap, Option.map_eq_some_iff, Prod.mk.injEq,
    Prod.exists, exists_eq_right_right]
  grind

theorem visitedArguments_sublist (es : List Expr) (ps : List Parameter) :
    ((visitedArguments (es.zip ps)).map Prod.fst).Sublist es := by
  induction es generalizing ps with
  | nil => exact .slnil
  | cons e es ih =>
    cases ps with
    | nil => exact List.nil_sublist _
    | cons p ps =>
      rw [List.zip_cons_cons, visitedArguments]
      cases hvisited : visitedAs p e with
      | none =>
        rw [List.filterMap_cons_none (by rw [hvisited]; rfl)]
        exact (ih ps).cons e
      | some t =>
        rw [List.filterMap_cons_some (by rw [hvisited]; rfl)]
        exact (ih ps).cons_cons e

/-- Each operand, argument and index is checked once at most. -/
theorem Expr.visits_sublist (ctx : Context) (t : SemanticType) (e : Expr) :
    ((e.visits ctx t).map Prod.fst).Sublist e.children := by
  have hall (es : List Expr) (u : SemanticType) : ((es.map (·, u)).map Prod.fst).Sublist es := by
    simp [Function.comp_def]
  cases e with
  | number | string | identifier | empty | error => exact .slnil
  | access name as s => exact hall (indices as) .numberOrString
  | unary sign a s => exact .refl [a]
  | binary operator a b s =>
    rw [visits]
    split
    · exact .refl [a, b]
    · exact .refl [a, b]
  | call callee es s =>
    rw [visits]
    split
    · exact hall es .unknown
    · exact visitedArguments_sublist es _

theorem Expr.mem_children_of_visits {x : Expr × SemanticType} (h : x ∈ e.visits ctx t) :
    x.1 ∈ e.children :=
  (e.visits_sublist ctx t).subset (List.mem_map_of_mem h)

theorem Expr.Visits.mem_nodes (h : e.Visits ctx t n v) : n ∈ e.nodes := by
  induction h with
  | refl => exact .head _
  | step hc _ ih => exact mem_nodes_of_child (mem_children_of_visits hc) ih

/-- Where spans tell nodes apart, what is checked for one operand, argument or index is checked for
no other one. -/
theorem Expr.Distinct.visits_eq (h : e.Distinct) {x y : Expr × SemanticType}
    (hx : x ∈ e.visits ctx t) (hy : y ∈ e.visits ctx t) {m m' : Expr} (hm : m ∈ x.1.nodes)
    (hm' : m' ∈ y.1.nodes) (hspan : m.span = m'.span) : x = y := by
  have hsame : x.1 = y.1 := by
    rcases h.siblings (mem_children_of_visits hx) (mem_children_of_visits hy) with hsame | hapart
    · exact hsame
    · exact absurd hspan (hapart m hm m' hm')
  have hpairs : (e.visits ctx t).Pairwise fun x y => x.1.span ≠ y.1.span := by
    have hvisited : DistinctSpans ((e.visits ctx t).map Prod.fst) :=
      h.children.sublist (visits_sublist ctx t e)
    rwa [DistinctSpans, List.pairwise_map] at hvisited
  have hsymm : Std.Symm fun x y : Expr × SemanticType => x.1.span ≠ y.1.span :=
    ⟨fun _ _ => Ne.symm⟩
  by_contra hne
  exact hpairs.forall hx hy hne (congrArg span hsame)

/-- Where spans tell nodes apart, one type is required of a node. -/
theorem Expr.Visits.unique (h : e.Visits ctx t n u) (he : e.Distinct) (h' : e.Visits ctx t n v) :
    u = v := by
  -- No node is found below itself, so both walks stop at once or go on to the same child.
  have hbelow {e c n : Expr} {t u : SemanticType} (he : e.Distinct) (hc : (c, u) ∈ e.visits ctx t)
      (hn : n ∈ c.nodes) : n ≠ e := by
    rintro rfl
    have hmem := mem_descendants_iff.2 ⟨c, mem_children_of_visits hc, hn⟩
    exact he.apart n hmem rfl
  induction h with
  | refl =>
    cases h' with
    | refl => rfl
    | step hc hn => exact absurd rfl (hbelow he hc hn.mem_nodes)
  | step hc hn ih =>
    cases h' with
    | refl => exact absurd rfl (hbelow he hc hn.mem_nodes)
    | step hc' hn' =>
      cases he.visits_eq hc hc' hn.mem_nodes hn'.mem_nodes rfl
      exact ih (he.child (mem_children_of_visits hc)) hn'

theorem exists_visitedAs (p : Parameter) (e : Expr) :
    (∃ t, visitedAs p e = some t) ∨ ∃ name s, e = .identifier name s := by
  unfold visitedAs
  split
  · exact .inl ⟨_, rfl⟩
  · exact .inl ⟨_, rfl⟩
  · exact .inl ⟨_, rfl⟩
  · exact .inl ⟨_, rfl⟩
  · exact .inl ⟨_, rfl⟩
  · cases e with
    | identifier name s => exact .inr ⟨name, s, rfl⟩
    | _ => exact .inl ⟨_, rfl⟩

/-- No argument of a call that passes its checks is left without a parameter. -/
theorem exists_paired_of_outcome {callee : Callee} {es : List Expr} {s : Span} {f : Signature}
    (h : (ctx.resolve t callee es s).outcome = .ok f) (he : e ∈ es) :
    ∃ p, (e, p) ∈ callee.paired f es := by
  obtain ⟨i, hi⟩ := List.mem_iff_getElem?.1 he
  have hlt := (List.getElem?_eq_some_iff.1 hi).1
  have hplace := Nat.lt_of_lt_of_le hlt (Context.outcome_eq_ok_iff.1 h).1.most
  exact ⟨_, List.mem_of_getElem?
    (Callee.paired_eq_some_iff.2 ⟨hi, List.getElem?_eq_getElem hplace⟩)⟩

/-- Every operand, argument and index but for bare names is checked as an expression. -/
theorem Expr.exists_visits_of_child (hc : c ∈ e.children) :
    (∃ u, (c, u) ∈ e.visits ctx t) ∨ ∃ name s, c = .identifier name s := by
  cases e with
  | number | string | identifier | empty | error => exact nomatch hc
  | access name as s => exact .inl ⟨_, List.mem_map_of_mem hc⟩
  | unary sign a s =>
    rw [List.mem_singleton.1 hc]
    exact .inl ⟨_, .head _⟩
  | binary operator a b s =>
    left
    rw [visits]
    rcases List.mem_cons.1 hc with rfl | hc
    · split
      · exact ⟨_, .head _⟩
      · exact ⟨_, .head _⟩
    · rw [List.mem_singleton.1 hc]
      split
      · exact ⟨_, .tail _ (.head _)⟩
      · exact ⟨_, .tail _ (.head _)⟩
  | call callee es s =>
    rw [visits]
    split
    next => exact .inl ⟨_, List.mem_map_of_mem hc⟩
    next f hf =>
      -- The bare name of a behavior is the only argument that is left out.
      obtain ⟨p, hp⟩ := exists_paired_of_outcome hf hc
      rcases exists_visitedAs p c with ⟨u, hu⟩ | hname
      · exact .inl ⟨u, mem_visitedArguments_iff.2 ⟨p, hp, hu⟩⟩
      · exact .inr hname

/-- Every call in a tree is checked. -/
theorem Expr.exists_visits_call {callee : Callee} {es : List Expr} {s : Span}
    (h : .call callee es s ∈ e.nodes) (ctx : Context) (t : SemanticType) :
    ∃ u, e.Visits ctx t (.call callee es s) u := by
  induction e using Expr.induction_children generalizing t with
  | step e ih =>
    rcases mem_nodes_iff.1 h with rfl | ⟨c, hc, hn⟩
    · exact ⟨t, .refl⟩
    have hchecked : (∃ u, (c, u) ∈ e.visits ctx t) ∨ ∃ name s, c = .identifier name s :=
      exists_visits_of_child hc
    rcases hchecked with ⟨u, hu⟩ | ⟨name, s, rfl⟩
    · obtain ⟨v, hv⟩ := ih c hc hn u
      exact ⟨v, .step hu hv⟩
    · exact nomatch List.mem_singleton.1 hn

/-- Where spans tell nodes apart, every call in a tree is checked where one type is required. -/
theorem Expr.Distinct.visits_call_iff {callee : Callee} {es : List Expr} {s : Span}
    (he : e.Distinct) (h : .call callee es s ∈ e.nodes) (ctx : Context) (t : SemanticType) :
    ∃ u, ∀ v, e.Visits ctx t (.call callee es s) v ↔ v = u := by
  obtain ⟨u, hu⟩ := exists_visits_call h ctx t
  refine ⟨u, fun v => ⟨fun hv => hv.unique he hu, ?_⟩⟩
  rintro rfl
  exact hu

end

end EventSheet
