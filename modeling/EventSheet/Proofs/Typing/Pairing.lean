import EventSheet.Proofs.Typing.Acceptance
import EventSheet.Proofs.Typing.Agreement

/-!
# Arguments and the parameters they are written for

The arguments of a call are paired with the parameters that a user writes by position alone, and
each is checked for its parameter: `checkArguments_eq_flatMap`. What a bare name in an argument
belongs to depends on the arguments before it only by the objects that they name.

The number of arguments is right as soon as there are as many as required parameters, wherever these
stand. So every required parameter gets an argument whenever the number is right if no optional
parameter stands before a required one, and only then: `required_paired_iff`.
-/

namespace EventSheet

/-- The arguments of a call, each with the parameter that it is written for. -/
def Callee.paired (callee : Callee) (f : Signature) (es : List Expr) : List (Expr × Parameter) :=
  es.zip (f.written callee.impliedParameters)

/-- The object that an argument names: a bare name, where its parameter takes an object. -/
def namedObject? (x : Expr × Parameter) : Option String :=
  if ParameterFamily.ofKind? x.2.kind = some .object then x.1.identifier? else none

/-- The object that names behind some arguments belong to: the one that is named last in them, or
else the one that names before them belong to. -/
def objectBehind (context : Option String) (pairs : List (Expr × Parameter)) : Option String :=
  (pairs.filterMap namedObject?).getLast?.or context

/-! ### One argument after another -/

section

variable {context : Option String} {x : Expr × Parameter} {pairs : List (Expr × Parameter)}

@[simp] theorem objectBehind_nil : objectBehind context [] = context := rfl

theorem objectBehind_cons :
    objectBehind context (x :: pairs) = objectBehind ((namedObject? x).or context) pairs := by
  unfold objectBehind
  cases hnamed : namedObject? x with
  | none => rw [List.filterMap_cons_none hnamed, Option.none_or]
  | some object =>
    rw [List.filterMap_cons_some hnamed, List.getLast?_cons]
    cases (pairs.filterMap namedObject?).getLast? <;> rfl

theorem objectBehind_append {pairs' : List (Expr × Parameter)} :
    objectBehind context (pairs ++ pairs') = objectBehind (objectBehind context pairs) pairs' := by
  induction pairs generalizing context with
  | nil => rfl
  | cons x pairs ih => rw [List.cons_append, objectBehind_cons, ih, objectBehind_cons]

/-- An argument changes what names behind it belong to when it names an object. -/
theorem Argument.contextAfter_eq_or (a : Argument) :
    a.contextAfter context = (namedObject? (a.expr, a.parameter)).or context := by
  unfold contextAfter namedObject?
  split
  next hfamily hname => rw [if_pos hfamily, hname, Option.some_or]
  next hother =>
    split
    next hfamily =>
      cases hname : a.expr.identifier? with
      | none => rfl
      | some name => exact absurd hname (hother name hfamily)
    next => rfl

end

/-- The arguments of a call are checked one after another, each for the parameter it is paired with
and with the names in it belonging to the object named last before it. -/
theorem checkArguments_eq_flatMap (ctx : Context) (context : Option String) (position : Nat)
    (es : List Expr) (ps : List Parameter) :
    checkArguments ctx context position es ps =
      (es.zip ps).zipIdx.flatMap fun x =>
        (written ctx x.1.1 x.1.2 (position + x.2)).diagnostics ctx.scope
          (objectBehind context ((es.zip ps).take x.2)) := by
  induction es generalizing context position ps with
  | nil => simp [checkArguments]
  | cons e es ih =>
    cases ps with
    | nil => simp [checkArguments]
    | cons p ps =>
      rw [checkArguments, ih, Argument.contextAfter_eq_or, List.zip_cons_cons, List.zipIdx_cons',
        List.flatMap_cons, List.flatMap_map]
      simp only [Prod.map, id, List.take_succ_cons, objectBehind_cons, List.take_zero,
        objectBehind_nil, Nat.add_zero, Nat.add_assoc, Nat.add_comm 1]
      rfl

/-! ### Required parameters -/

/-- No optional parameter stands before a required one. -/
def RequiredFirst (ps : List Parameter) : Prop :=
  ps.Pairwise fun p q => q.isRequired = true → p.isRequired = true

instance RequiredFirst.decidable (ps : List Parameter) : Decidable (RequiredFirst ps) :=
  inferInstanceAs (Decidable (List.Pairwise _ ps))

/-- The required parameters stand at the first places, as many as there are of them. -/
def RequiredWithin (n : Nat) (ps : List Parameter) : Prop :=
  ∀ i p, ps[i]? = some p → p.isRequired = true → i < n

theorem RequiredWithin.countP_le {n : Nat} {ps : List Parameter} (h : RequiredWithin n ps) :
    ps.countP Parameter.isRequired ≤ n := by
  have hbehind : (ps.drop n).countP Parameter.isRequired = 0 := by
    rw [List.countP_eq_zero]
    intro p hp hrequired
    obtain ⟨i, hi⟩ := List.mem_iff_getElem?.1 hp
    rw [List.getElem?_drop] at hi
    exact absurd (h _ p hi hrequired) (by omega)
  have hsplit := congrArg (List.countP Parameter.isRequired) (List.take_append_drop n ps)
  rw [List.countP_append, hbehind, Nat.add_zero] at hsplit
  rw [← hsplit]
  exact Nat.le_trans List.countP_le_length (List.length_take_le n ps)

theorem RequiredWithin.tail {n : Nat} {p : Parameter} {ps : List Parameter}
    (h : RequiredWithin (n + 1) (p :: ps)) : RequiredWithin n ps :=
  fun i q hq hrequired => Nat.lt_of_succ_lt_succ (h (i + 1) q hq hrequired)

/-- Required parameters stand before all optional ones exactly when they stand at the first places,
as many as there are of them. -/
theorem requiredFirst_iff {ps : List Parameter} :
    RequiredFirst ps ↔ RequiredWithin (ps.countP Parameter.isRequired) ps := by
  induction ps with
  | nil => simp [RequiredFirst, RequiredWithin]
  | cons p ps ih =>
    have hcons : RequiredFirst (p :: ps) ↔
        (∀ q ∈ ps, q.isRequired = true → p.isRequired = true) ∧ RequiredFirst ps :=
      List.pairwise_cons
    rw [hcons]
    cases hp : p.isRequired with
    | true =>
      rw [List.countP_cons_of_pos hp, ih]
      constructor
      · rintro ⟨-, h⟩ i q hq hrequired
        cases i with
        | zero => omega
        | succ i => exact Nat.succ_lt_succ (h i q hq hrequired)
      · exact fun h => ⟨fun _ _ _ => rfl, h.tail⟩
    | false =>
      -- One required parameter behind this one would stand too far back.
      have hnone : (∀ q ∈ ps, q.isRequired = true → false = true) ↔
          ps.countP Parameter.isRequired = 0 := by
        simp [List.countP_eq_zero]
      rw [List.countP_cons_of_neg (by simp [hp]), hnone, ih]
      constructor
      · rintro ⟨hzero, h⟩ i q hq hrequired
        cases i with
        | zero =>
          cases hq
          exact nomatch hp.symm.trans hrequired
        | succ i =>
          have hplace := h i q hq hrequired
          omega
      · intro h
        cases hcount : ps.countP Parameter.isRequired with
        | zero =>
          refine ⟨rfl, fun i q hq hrequired => ?_⟩
          have hmem := List.mem_of_getElem? hq
          exact absurd hrequired (List.countP_eq_zero.1 hcount q hmem)
        | succ n =>
          rw [hcount] at h
          have hbefore := h.tail.countP_le
          omega

/-- Every parameter that a user writes and that is required is paired with an argument. -/
def Callee.Supplies (callee : Callee) (f : Signature) (es : List Expr) : Prop :=
  ∀ (i : Nat) (p : Parameter), (f.written callee.impliedParameters)[i]? = some p →
    p.isRequired = true → ∃ e, (callee.paired f es)[i]? = some (e, p)

section

variable {callee : Callee} {f : Signature}

/-- A parameter gets the argument at its place, when there is one. -/
theorem Callee.paired_eq_some_iff {es : List Expr} {i : Nat} {e : Expr} {p : Parameter} :
    (callee.paired f es)[i]? = some (e, p) ↔
      es[i]? = some e ∧ (f.written callee.impliedParameters)[i]? = some p :=
  List.getElem?_zip_eq_some

theorem Callee.supplies_iff {es : List Expr} :
    callee.Supplies f es ↔ RequiredWithin es.length (f.written callee.impliedParameters) := by
  constructor
  · intro h i p hp hrequired
    obtain ⟨e, he⟩ := h i p hp hrequired
    exact (List.getElem?_eq_some_iff.1 (paired_eq_some_iff.1 he).1).1
  · intro h i p hp hrequired
    have hlt := h i p hp hrequired
    exact ⟨es[i], paired_eq_some_iff.2 ⟨List.getElem?_eq_getElem hlt, hp⟩⟩

/-- The least number of arguments is right. -/
theorem countProblem?_least (callee : Callee) (f : Signature) (e : Expr) (s : Span) :
    countProblem? callee f (List.replicate (f.countRange callee.impliedParameters).1 e) s =
      none := by
  rw [countProblem?_eq_none_iff, List.length_replicate]
  exact ⟨Nat.le_refl _, f.countRange_le callee.impliedParameters⟩

end

/-- Arguments are paired with the parameters that a user writes by position, and each is checked for
the one it is paired with. Every required parameter gets an argument whenever the number of
arguments is right exactly if no optional parameter stands before a required one. -/
theorem required_paired_iff (ctx : Context) (callee : Callee) (f : Signature) :
    (∀ context es, checkArguments ctx context 1 es (f.written callee.impliedParameters) =
      (callee.paired f es).zipIdx.flatMap fun x =>
        (written ctx x.1.1 x.1.2 (1 + x.2)).diagnostics ctx.scope
          (objectBehind context ((callee.paired f es).take x.2))) ∧
    ((∀ es s, countProblem? callee f es s = none → callee.Supplies f es) ↔
      RequiredFirst (f.written callee.impliedParameters)) := by
  refine ⟨fun context es => checkArguments_eq_flatMap ctx context 1 es _, ?_⟩
  simp only [Callee.supplies_iff, requiredFirst_iff]
  constructor
  · intro h
    have hleast := h _ ⟨0, 0⟩ (countProblem?_least callee f (.empty ⟨0, 0⟩) ⟨0, 0⟩)
    rwa [List.length_replicate] at hleast
  · intro h es s hcount i p hp hrequired
    exact Nat.lt_of_lt_of_le (h i p hp hrequired) (countProblem?_eq_none_iff.1 hcount).1

/-- A function of an optional parameter behind a required one, called with one argument. -/
theorem required_paired_iff_round :
    let f : Signature :=
      ⟨"Round", "number", [.required "number", ⟨"number", true, false, ""⟩], none, ""⟩
    let callee : Callee := .free ⟨"Round", ⟨0, 5⟩⟩
    RequiredFirst (f.written callee.impliedParameters) ∧
      countProblem? callee f [.number "1" ⟨6, 7⟩] ⟨0, 8⟩ = none ∧
        callee.Supplies f [.number "1" ⟨6, 7⟩] := by
  intro f callee
  have hfirst : RequiredFirst (f.written callee.impliedParameters) := by decide
  have hcount : countProblem? callee f [.number "1" ⟨6, 7⟩] ⟨0, 8⟩ = none := by rfl
  exact ⟨hfirst, hcount, (required_paired_iff .bare callee f).2.2 hfirst _ _ hcount⟩

/-- Where an optional parameter stands before a required one, a single argument makes their number
right, and the required parameter gets none. -/
theorem required_left_out : ¬ ∀ (callee : Callee) (f : Signature) (es : List Expr) (s : Span),
    countProblem? callee f es s = none → callee.Supplies f es := by
  intro h
  let f : Signature :=
    ⟨"F", "number", [⟨"number", true, false, ""⟩, .required "string"], none, ""⟩
  obtain ⟨e, he⟩ := h (.free ⟨"F", ⟨0, 1⟩⟩) f [.string "a" ⟨2, 5⟩] ⟨0, 6⟩ rfl 1 _ rfl rfl
  exact nomatch he

end EventSheet
