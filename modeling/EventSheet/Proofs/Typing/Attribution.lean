import Mathlib.Data.List.Forall2
import EventSheet.Proofs.Reading.Likeness
import EventSheet.Proofs.Typing.Acceptance
import EventSheet.Proofs.Typing.Agreement
import EventSheet.Proofs.Typing.Likeness

/-!
# Type errors of arguments

An argument that is a number or a text is reported as it is when it stands alone, but for a type
error that covers all of it, which is told about the parameter: `argument_attribution`. Such an
error is picked by its span. That is right because no node of a tree that was read has the span of a
node below it, so that what covers an argument was raised by the argument itself, at most once.
Nothing is left for the last look at the type to find.
-/

namespace EventSheet

/-- The type errors among diagnostics that cover a span. -/
def covering (s : Span) (ds : List Diagnostic) : List Diagnostic :=
  ds.filter fun d => d.code = .typeError ∧ d.span = s

section

variable {s : Span} {d : Diagnostic} {ds es : List Diagnostic}

theorem covering_append : covering s (ds ++ es) = covering s ds ++ covering s es :=
  List.filter_append ..

theorem covering_cons : covering s (d :: ds) = covering s [d] ++ covering s ds :=
  @covering_append s [d] ds

theorem covering_cons_of_not (h : ¬ (d.code = .typeError ∧ d.span = s)) :
    covering s (d :: ds) = covering s ds :=
  List.filter_cons_of_neg (by simpa using h)

theorem covering_cons_of_covers (h : d.code = .typeError ∧ d.span = s) :
    covering s (d :: ds) = d :: covering s ds :=
  List.filter_cons_of_pos (by simpa using h)

theorem covering_eq_nil_iff : covering s ds = [] ↔ Uncovered s ds := by
  simp only [covering, List.filter_eq_nil_iff, decide_eq_true_eq, not_and]
  rfl

theorem Uncovered.covering_eq_nil (h : Uncovered s ds) : covering s ds = [] :=
  covering_eq_nil_iff.2 h

end

/-! ### Reports of arguments -/

/-- How a diagnostic of an argument is reported. A type error that covers the argument turns into a
mismatch of the parameter, whose wording names the position and the kind of the parameter first;
everything else stays as it is. -/
structure Argument.Reports (a : Argument) (d reported : Diagnostic) : Prop where
  span : reported.span = d.span
  severity : reported.severity = d.severity
  turned : d.code = .typeError → d.span = a.expr.span →
    reported.code = .parameterTypeMismatch ∧
      reported.message =
        s!"Parameter {a.position} should be of type `{a.parameter.kind}`. " ++ d.message
  kept : ¬ (d.code = .typeError ∧ d.span = a.expr.span) → reported = d

namespace Argument

variable {a : Argument}

theorem Reports.same {d : Diagnostic} (h : ¬ (d.code = .typeError ∧ d.span = a.expr.span)) :
    a.Reports d d :=
  ⟨rfl, rfl, fun hcode hspan => absurd ⟨hcode, hspan⟩ h, fun _ => rfl⟩

theorem reports_of_uncovered {ds : List Diagnostic} (h : Uncovered a.expr.span ds) :
    List.Forall₂ a.Reports ds ds :=
  List.forall₂_same.2 fun d hd => .same fun hcover => h d hd hcover.1 hcover.2

/-- A type error that covers the argument is told about the parameter. -/
theorem Reports.inParameter {d : Diagnostic} (h : d.code = .typeError ∧ d.span = a.expr.span) :
    a.Reports d ⟨.inParameter a.position a.parameter.kind d.problem, d.span⟩ where
  span := rfl
  severity := rfl
  turned _ _ := ⟨rfl, rfl⟩
  kept hnot := absurd h hnot

/-- Where one type error at most covers the argument, all that do are told about the parameter. -/
theorem reports_attribute? {ds : List Diagnostic} (h : (covering a.expr.span ds).length ≤ 1) :
    List.Forall₂ a.Reports ds ((a.attribute? ds).getD ds) := by
  induction ds with
  | nil => exact .nil
  | cons d ds ih =>
    unfold attribute?
    split
    next hcover =>
      rw [covering_cons_of_covers hcover, List.length_cons, Nat.succ_le_succ_iff, Nat.le_zero,
        List.length_eq_zero_iff, covering_eq_nil_iff] at h
      -- This is the one error there may be, so that nothing behind it should have been turned.
      exact .cons (.inParameter hcover) (reports_of_uncovered h)
    next hcover =>
      rw [covering_cons_of_not hcover] at h
      have hrest := ih h
      cases hds : a.attribute? ds with
      | none =>
        rw [hds] at hrest
        exact .cons (.same hcover) hrest
      | some es =>
        rw [hds] at hrest
        exact .cons (.same hcover) hrest

end Argument

/-! ### What a node tells of itself -/

/-- What checking a node tells of the node itself, whatever is found in its parts. -/
def Expr.own? (ctx : Context) (expected : SemanticType) : Expr → Option Diagnostic
  | .number _ s => (checkLiteral .number expected s).diagnostics.head?
  | .string _ s => (checkLiteral .string expected s).diagnostics.head?
  | .identifier name s => (checkIdentifier name expected s).diagnostics.head?
  | .access _ _ s => (checkAccess [] expected s).diagnostics.head?
  | .unary _ _ s =>
    if expected.refusesOperators then some ⟨.misplacedOperator expected, s⟩
    else (signProblem? expected).map (⟨·, s⟩)
  | .binary operator left _ s =>
    if expected.refusesOperators then some ⟨.misplacedOperator expected, s⟩
    else
      (operatorProblem? operator (operationType (left.check ctx expected).type expected)).map
        (⟨·, s⟩)
  | .call callee arguments s =>
    match (ctx.resolve expected callee arguments s).outcome with
    | .error d => some d
    | .ok _ => none
  | .empty s => (checkEmpty expected s).diagnostics.head?
  | .error _ _ _ => none

section

variable {ctx : Context} {e : Expr}

theorem checkLiteral_eq_own (found expected : SemanticType) (s : Span) :
    (checkLiteral found expected s).diagnostics =
      (checkLiteral found expected s).diagnostics.head?.toList := by
  unfold checkLiteral
  dsimp only
  split <;> rfl

theorem checkIdentifier_eq_own (name : String) (expected : SemanticType) (s : Span) :
    (checkIdentifier name expected s).diagnostics =
      (checkIdentifier name expected s).diagnostics.head?.toList := by
  unfold checkIdentifier
  split <;> rfl

theorem checkEmpty_eq_own (expected : SemanticType) (s : Span) :
    (checkEmpty expected s).diagnostics = (checkEmpty expected s).diagnostics.head?.toList := by
  unfold checkEmpty
  split <;> rfl

theorem checkAccess_eq_own (inside : List Diagnostic) (expected : SemanticType) (s : Span) :
    (checkAccess inside expected s).diagnostics =
      inside ++ (checkAccess [] expected s).diagnostics.head?.toList := by
  unfold checkAccess
  split
  · exact (List.append_nil inside).symm
  · exact (List.append_nil inside).symm
  · rfl

namespace Expr.Apart

theorem covering_access {name : Name} {as : List Accessor} {s : Span}
    (h : (access name as s).Apart) (expected : SemanticType) :
    covering s ((access name as s).check ctx expected).diagnostics =
      covering s ((access name as s).own? ctx expected).toList := by
  have hinside : covering s (checkIndices ctx as) = [] := by
    rw [checkIndices_eq_flatMap]
    exact (h.uncovered_flatMap .numberOrString).covering_eq_nil
  rw [check, checkAccess_eq_own, covering_append, hinside]
  rfl

theorem covering_unary {sign : Sign} {a : Expr} {s : Span} (h : (unary sign a s).Apart)
    (expected : SemanticType) :
    covering s ((unary sign a s).check ctx expected).diagnostics =
      covering s ((unary sign a s).own? ctx expected).toList := by
  have hoperand (t : SemanticType) : covering s (a.check ctx t).diagnostics = [] :=
    (h.uncovered (.head _)).covering_eq_nil
  rw [check, own?]
  split
  · rw [covering_cons, hoperand, List.append_nil]
    rfl
  · rw [covering_append, hoperand, List.append_nil]

theorem covering_binary {operator : Operator} {a b : Expr} {s : Span}
    (h : (binary operator a b s).Apart) (expected : SemanticType) :
    covering s ((binary operator a b s).check ctx expected).diagnostics =
      covering s ((binary operator a b s).own? ctx expected).toList := by
  have hleft (t : SemanticType) : covering s (a.check ctx t).diagnostics = [] :=
    (h.uncovered (.head _)).covering_eq_nil
  have hright (t : SemanticType) : covering s (b.check ctx t).diagnostics = [] :=
    (h.uncovered (.tail _ (.head _))).covering_eq_nil
  rw [check, own?]
  split
  · rw [covering_cons, covering_append, hleft, hright, List.append_nil, List.append_nil]
    rfl
  · dsimp only
    rw [covering_append, covering_append, hleft, hright, List.nil_append, List.append_nil]

theorem covering_call {callee : Callee} {es : List Expr} {s : Span} (h : (call callee es s).Apart)
    (expected : SemanticType) :
    covering s ((call callee es s).check ctx expected).diagnostics =
      covering s ((call callee es s).own? ctx expected).toList := by
  rw [check, own?]
  cases (ctx.resolve expected callee es s).outcome with
  | error d =>
    have hinside : covering s (checkLoosely ctx es) = [] := by
      rw [checkLoosely_eq_flatMap]
      exact (h.uncovered_flatMap .unknown).covering_eq_nil
    dsimp only
    rw [covering_cons, hinside, List.append_nil]
    rfl
  | ok f => exact (h.uncovered_arguments rfl).covering_eq_nil

/-- The type errors that cover a node are those that it tells of itself. -/
theorem covering_check (h : e.Apart) (expected : SemanticType) :
    covering e.span (e.check ctx expected).diagnostics =
      covering e.span (e.own? ctx expected).toList := by
  cases e with
  | number text s =>
    rw [check, checkLiteral_eq_own]
    rfl
  | string value s =>
    rw [check, checkLiteral_eq_own]
    rfl
  | identifier name s =>
    rw [check, checkIdentifier_eq_own]
    rfl
  | empty s =>
    rw [check, checkEmpty_eq_own]
    rfl
  | error reason text s =>
    rw [check]
    rfl
  | access name as s => exact h.covering_access expected
  | unary sign a s => exact h.covering_unary expected
  | binary operator a b s => exact h.covering_binary expected
  | call callee es s => exact h.covering_call expected

end Expr.Apart

/-- One type error at most covers a node. -/
theorem length_covering_check_le (ctx : Context) (h : e.Apart) (expected : SemanticType) :
    (covering e.span (e.check ctx expected).diagnostics).length ≤ 1 := by
  rw [h.covering_check]
  refine Nat.le_trans (List.length_filter_le _ _) ?_
  cases e.own? ctx expected <;> simp

end

/-! ### Arguments of texts -/

/-- One problem, one attribution. An argument for a number or a text is reported as it is found when
it stands alone, in the same order and at the same places, but for a type error that covers it,
which is told about the parameter. There is one such error at most, and it is what the argument
tells of itself: nothing found in a node below the argument covers it. An argument in which nothing
is found is never reported for its type, whatever its parameter takes. -/
theorem argument_attribution {source : String} {callee : Callee} {es : List Expr} {s : Span}
    {e : Expr} (hcall : .call callee es s ∈ (parse source).root.nodes) (he : e ∈ es) (ctx : Context)
    (p : Parameter) (position : Nat) (context : Option String) :
    (∀ family, ParameterFamily.ofKind? p.kind = some family →
      family = .number ∨ family = .string →
        List.Forall₂ (written ctx e p position).Reports
          (e.check ctx family.expectedType).diagnostics
          ((written ctx e p position).diagnostics ctx.scope context) ∧
        (covering e.span (e.check ctx family.expectedType).diagnostics).length ≤ 1 ∧
        covering e.span (e.check ctx family.expectedType).diagnostics =
          covering e.span (e.own? ctx family.expectedType).toList ∧
        ∀ n ∈ e.descendants, ∀ expected, Uncovered e.span (n.check ctx expected).diagnostics) ∧
    ∀ d ∈ (written ctx e p position).diagnostics ctx.scope context,
      ∀ position kind expected found,
        d.problem ≠ .parameterMismatch position kind expected found := by
  have hnode : e ∈ (parse source).root.nodes :=
    Expr.nodes_trans (Expr.mem_nodes_of_child he (.head _)) hcall
  have hapart : e.Apart := parse_apart source e hnode
  have hfits : (written ctx e p position).Fits := Argument.fits_of_check rfl
  constructor
  · intro family hfamily hvalue
    have hone := length_covering_check_le ctx hapart family.expectedType
    refine ⟨?_, hone, hapart.covering_check _, ?_⟩
    · have hdiagnostics : (written ctx e p position).diagnostics ctx.scope context =
          (written ctx e p position).value family := by
        have hkind : ParameterFamily.ofKind? (written ctx e p position).parameter.kind =
            some family := hfamily
        unfold Argument.diagnostics
        rw [hkind]
        rcases hvalue with rfl | rfl <;> rfl
      rw [hdiagnostics, Argument.value_eq hfits]
      exact Argument.reports_attribute? hone
    · intro n hn expected
      exact hapart.uncovered_descendant hn
  · intro d hd
    cases Argument.tells_of_mem_diagnostics hfits hd with
    | whole hmeant => exact hmeant.explained
    | inside hinside => exact (Expr.meant_of_mem_check hinside).explained

theorem argument_attribution_text :
    (parse "f(\"a\")").root =
        .call (.free ⟨"f", ⟨0, 1⟩⟩) [.string "a" ⟨2, 5⟩] ⟨0, 6⟩ ∧
      List.Forall₂ (written .bare (.string "a" ⟨2, 5⟩) (.required "expression") 1).Reports
        [⟨.misplacedLiteral .string .number, ⟨2, 5⟩⟩]
        [⟨.inParameter 1 "expression" (.misplacedLiteral .string .number), ⟨2, 5⟩⟩] := by
  have hroot : (parse "f(\"a\")").root =
      .call (.free ⟨"f", ⟨0, 1⟩⟩) [.string "a" ⟨2, 5⟩] ⟨0, 6⟩ := by
    with_unfolding_all rfl
  have hcall : .call (.free ⟨"f", ⟨0, 1⟩⟩) [.string "a" ⟨2, 5⟩] ⟨0, 6⟩ ∈
      (parse "f(\"a\")").root.nodes := by
    rw [hroot]
    exact .head _
  have hfamily : ParameterFamily.ofKind? (Parameter.required "expression").kind = some .number := by
    decide +kernel
  have hfound : ((Expr.string "a" ⟨2, 5⟩).check .bare .number).diagnostics =
      [⟨.misplacedLiteral .string .number, ⟨2, 5⟩⟩] := by
    decide +kernel
  have hreported : (written .bare (.string "a" ⟨2, 5⟩) (.required "expression") 1).diagnostics
      Context.bare.scope none =
        [⟨.inParameter 1 "expression" (.misplacedLiteral .string .number), ⟨2, 5⟩⟩] := by
    decide +kernel
  refine ⟨hroot, ?_⟩
  rw [← hfound, ← hreported]
  exact ((argument_attribution hcall (.head _) .bare (.required "expression") 1 none).1 _ hfamily
    (.inl rfl)).1

end EventSheet
