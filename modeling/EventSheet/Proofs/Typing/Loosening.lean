import EventSheet.Proofs.Typing.Acceptance
import EventSheet.Proofs.Typing.Agreement

/-!
# Loosening what is required

A place that takes more causes no new errors: what passes as a number or as a text passes where
either may stand, and what passes anywhere passes where nothing is required. Where little is
required the left operand of an operator decides what the operation is about, so that both proofs
carry along how the type of an expression settles when less is asked of it.
-/

namespace EventSheet

/-- An operation that is settled stays as it is settled. -/
@[simp] theorem operationType_operationType (left expected : SemanticType) :
    operationType (operationType left expected) expected = operationType left expected := by
  cases left <;> cases expected <;> rfl

theorem rightExpected_numberOrString (operation : SemanticType) :
    rightExpected operation .numberOrString = operation :=
  if_pos rfl

section

variable {ctx : Context} {a b : Expr}

/-- What an operation without an error says of its operator and of its operands. -/
theorem check_binary_faultless_iff {expected : SemanticType} (operator : Operator) (s : Span) :
    Faultless ((Expr.binary operator a b s).check ctx expected).diagnostics ↔
      expected.refusesOperators = false ∧ Faultless (a.check ctx expected).diagnostics ∧
        (operationType (a.check ctx expected).type expected = .string → operator = .add) ∧
        Faultless
          (b.check ctx (rightExpected (operationType (a.check ctx expected).type expected)
            expected)).diagnostics := by
  rw [Expr.check]
  cases hrefuse : expected.refusesOperators with
  | true => simp [Problem.severity]
  | false =>
    simp only [Bool.false_eq_true, if_false, faultless_append, operatorProblem?_faultless_iff,
      true_and]

theorem check_binary_type {expected : SemanticType} (operator : Operator) (s : Span)
    (h : expected.refusesOperators = false) :
    ((Expr.binary operator a b s).check ctx expected).type =
      operationType (a.check ctx expected).type expected := by
  simp [Expr.check, h]

theorem check_unary_faultless_iff {expected : SemanticType} (sign : Sign) (s : Span) :
    Faultless ((Expr.unary sign a s).check ctx expected).diagnostics ↔
      (expected = .number ∨ expected = .numberOrString ∨ expected = .unknown) ∧
        Faultless (a.check ctx .number).diagnostics := by
  rw [Expr.check]
  cases expected <;>
    simp [SemanticType.refusesOperators, signProblem?, SemanticType.fits, Problem.severity]

end

/-! ### Where either may stand -/

/-- An expression passes where a number or a text may stand, and an operation that it begins is
about values of the type or about either. -/
structure PassesLoosely (ctx : Context) (t : SemanticType) (e : Expr) : Prop where
  faultless : Faultless (e.check ctx .numberOrString).diagnostics
  settles : operationType (e.check ctx .numberOrString).type .numberOrString = t ∨
    operationType (e.check ctx .numberOrString).type .numberOrString = .numberOrString

theorem PassesLoosely.binary {ctx : Context} {t : SemanticType} {a b : Expr} {operator : Operator}
    (ha : PassesLoosely ctx t a) (hb : PassesLoosely ctx t b)
    (hright : Faultless (b.check ctx t).diagnostics) (hoperator : t = .string → operator = .add)
    (s : Span) : PassesLoosely ctx t (.binary operator a b s) := by
  refine ⟨?_, ?_⟩
  · rw [check_binary_faultless_iff, rightExpected_numberOrString]
    refine ⟨rfl, ha.faultless, ?_⟩
    rcases ha.settles with h | h
    · rw [h]
      exact ⟨hoperator, hright⟩
    · rw [h]
      exact ⟨fun hstring => (nomatch hstring), hb.faultless⟩
  · rw [check_binary_type operator s rfl, operationType_operationType]
    exact ha.settles

theorem SemanticType.eq_of_fits {found t : SemanticType}
    (hfound : found = .number ∨ found = .string) (ht : t = .number ∨ t = .string)
    (h : found.fits t = true) : found = t := by
  revert h
  rcases hfound with rfl | rfl <;> rcases ht with rfl | rfl <;> decide

/-- A literal that passes is of the required type. -/
theorem PassesLoosely.literal {ctx : Context} {t found : SemanticType} {e : Expr} {s : Span}
    (ht : t = .number ∨ t = .string) (hfound : found = .number ∨ found = .string)
    (hcheck : ∀ expected, e.check ctx expected = checkLiteral found expected s)
    (h : Faultless (e.check ctx t).diagnostics) : PassesLoosely ctx t e := by
  have hfits : found.fits t = true := by
    rw [hcheck] at h
    exact checkLiteral_fits h
  obtain rfl := SemanticType.eq_of_fits hfound ht hfits
  refine ⟨?_, .inl ?_⟩
  all_goals
    rw [hcheck]
    rcases ht with rfl | rfl <;> simp [checkLiteral, SemanticType.fits, operationType,
      SemanticType.isValue]

/-- A call that passes returns the required type, and is accepted for it where either may stand. -/
theorem PassesLoosely.call {ctx : Context} {t : SemanticType} {callee : Callee} {es : List Expr}
    {s : Span} (ht : t = .number ∨ t = .string)
    (h : Faultless ((Expr.call callee es s).check ctx t).diagnostics) :
    PassesLoosely ctx t (.call callee es s) := by
  obtain ⟨f, hf, hreturn, -, hargs⟩ := check_call_faultless_iff.1 ⟨h, rfl⟩
  have htype : SemanticType.ofKind f.returnKind = t := by
    rcases ht with rfl | rfl
    · exact SemanticType.returnsFor_number.1 hreturn
    · exact SemanticType.returnsFor_string.1 hreturn
  have hvalue : t.isValue = true := by
    rcases ht with rfl | rfl <;> rfl
  have hloose : (SemanticType.ofKind f.returnKind).returnsFor .numberOrString = true := by
    rw [htype]
    exact SemanticType.returnsFor_numberOrString.2 hvalue
  obtain ⟨hfaultless, hsettled⟩ := check_call_faultless_iff.2 ⟨f, hf, hloose, htype, hargs⟩
  refine ⟨hfaultless, .inl ?_⟩
  rw [hsettled, operationType, if_pos hvalue]

/-- What passes as a number or as a text passes where either may stand. -/
theorem Expr.passesLoosely {ctx : Context} {t : SemanticType} {e : Expr}
    (ht : t = .number ∨ t = .string) (h : Faultless (e.check ctx t).diagnostics) :
    PassesLoosely ctx t e := by
  induction e with
  | number text s => exact .literal ht (.inl rfl) (fun _ => by rw [check]) h
  | string value s => exact .literal ht (.inr rfl) (fun _ => by rw [check]) h
  | identifier | access | empty =>
    rcases ht with rfl | rfl <;>
      simp [check, checkIdentifier, checkAccess, checkEmpty, Problem.severity] at h
  | unary sign a s =>
    obtain ⟨hexpected, ha⟩ := (check_unary_faultless_iff sign s).1 h
    have hnumber : t = .number := by
      rcases ht with rfl | rfl
      · rfl
      · simp at hexpected
    refine ⟨(check_unary_faultless_iff sign s).2 ⟨.inr (.inl rfl), ha⟩, .inl ?_⟩
    rw [hnumber, check]
    rfl
  | binary operator a b s iha ihb =>
    have hsettled : ∀ left, operationType left t = t := by
      rcases ht with rfl | rfl <;> exact fun _ => rfl
    have hright : rightExpected t t = t := by
      rcases ht with rfl | rfl <;> rfl
    rw [check_binary_faultless_iff, hsettled, hright] at h
    obtain ⟨-, ha, hoperator, hb⟩ := h
    exact (iha ha).binary (ihb hb) hb hoperator s
  | call => exact .call ht h
  | error reason text s =>
    constructor
    · rw [check]
      exact faultless_nil
    · rw [check]
      exact .inr rfl

/-! ### Where nothing is required -/

/-- An expression passes where nothing is required, and an operation that it begins is not about
texts unless it is about texts under the given requirement. -/
structure PassesFreely (ctx : Context) (expected : SemanticType) (e : Expr) : Prop where
  faultless : Faultless (e.check ctx .unknown).diagnostics
  settles : operationType (e.check ctx .unknown).type .unknown = .string →
    operationType (e.check ctx expected).type expected = .string

theorem rightExpected_unknown (operation : SemanticType) :
    rightExpected operation .unknown = .unknown :=
  if_neg (by decide)

theorem PassesFreely.binary {ctx : Context} {expected : SemanticType} {a b : Expr}
    {operator : Operator} (ha : PassesFreely ctx expected a)
    (hb : Faultless (b.check ctx .unknown).diagnostics)
    (hrefuse : expected.refusesOperators = false)
    (hoperator : operationType (a.check ctx expected).type expected = .string → operator = .add)
    (s : Span) : PassesFreely ctx expected (.binary operator a b s) := by
  refine ⟨?_, ?_⟩
  · rw [check_binary_faultless_iff, rightExpected_unknown]
    exact ⟨rfl, ha.faultless, fun h => hoperator (ha.settles h), hb⟩
  · rw [check_binary_type operator s rfl, check_binary_type operator s hrefuse,
      operationType_operationType, operationType_operationType]
    exact ha.settles

/-- What has a type wherever it stands and fits where it is required passes freely. -/
theorem PassesFreely.of_type {ctx : Context} {expected found : SemanticType} {e : Expr}
    (hfaultless : Faultless (e.check ctx .unknown).diagnostics)
    (hfree : (e.check ctx .unknown).type = found) (htype : (e.check ctx expected).type = found)
    (hfits : found.fits expected = true) : PassesFreely ctx expected e := by
  refine ⟨hfaultless, ?_⟩
  rw [hfree, htype]
  revert hfits
  cases found <;> cases expected <;> decide

theorem PassesFreely.literal {ctx : Context} {expected found : SemanticType} {e : Expr} {s : Span}
    (hcheck : ∀ expected, e.check ctx expected = checkLiteral found expected s)
    (h : Faultless (e.check ctx expected).diagnostics) : PassesFreely ctx expected e := by
  have htype : ∀ expected, (e.check ctx expected).type = found := fun _ => by rw [hcheck]; rfl
  have hfits : found.fits expected = true := by
    rw [hcheck] at h
    exact checkLiteral_fits h
  refine .of_type ?_ (htype .unknown) (htype expected) hfits
  rw [hcheck]
  simp [checkLiteral]

/-- What passes where anything is required passes where nothing is. -/
theorem Expr.passesFreely {ctx : Context} {e : Expr} {expected : SemanticType}
    (h : Faultless (e.check ctx expected).diagnostics) : PassesFreely ctx expected e := by
  induction e generalizing expected with
  | number | string => exact .literal (fun _ => by rw [check]) h
  | identifier name s =>
    constructor <;> simp [check, checkIdentifier, operationType, SemanticType.isValue]
  | access name as s =>
    have hinside : Faultless (checkIndices ctx as) := by
      rw [check] at h
      cases expected <;> simp_all [checkAccess]
    constructor <;> simp [check, checkAccess, operationType, SemanticType.isValue, hinside]
  | unary sign a s =>
    obtain ⟨hexpected, ha⟩ := (check_unary_faultless_iff sign s).1 h
    have htype : ∀ expected, expected.refusesOperators = false →
        ((unary sign a s).check ctx expected).type = .number := by
      intro expected hrefuse
      simp [check, hrefuse]
    refine .of_type ((check_unary_faultless_iff sign s).2 ⟨.inr (.inr rfl), ha⟩)
      (htype .unknown rfl) (htype expected ?_) ?_
    all_goals rcases hexpected with rfl | rfl | rfl <;> rfl
  | binary operator a b s iha ihb =>
    obtain ⟨hrefuse, ha, hoperator, hb⟩ := (check_binary_faultless_iff operator s).1 h
    exact (iha ha).binary (ihb hb).faultless hrefuse hoperator s
  | call callee es s =>
    obtain ⟨f, hf, hreturn, htype, hargs⟩ := check_call_faultless_iff.1 ⟨h, rfl⟩
    have hfree : (SemanticType.ofKind f.returnKind).returnsFor .unknown = true := by
      cases SemanticType.ofKind f.returnKind <;> rfl
    obtain ⟨hfaultless, hsettled⟩ := check_call_faultless_iff.2 ⟨f, hf, hfree, htype, hargs⟩
    exact .of_type hfaultless hsettled rfl (htype ▸ SemanticType.fits_of_returnsFor hreturn)
  | empty s =>
    constructor <;> simp [check, checkEmpty, operationType, SemanticType.isValue]
  | error reason text s =>
    constructor <;> simp [check, operationType, SemanticType.isValue]

/-- Loosening what is required never creates an error. What passes as a number or as a text passes
where either may stand, and what passes under any requirement passes under none; trees with text
that could not be read are no exception. -/
theorem check_loosens (ctx : Context) (e : Expr) :
    (Faultless (e.check ctx .number).diagnostics ∨ Faultless (e.check ctx .string).diagnostics →
        Faultless (e.check ctx .numberOrString).diagnostics) ∧
      ∀ expected, Faultless (e.check ctx expected).diagnostics →
        Faultless (e.check ctx .unknown).diagnostics := by
  constructor
  · rintro (h | h)
    · exact (Expr.passesLoosely (.inl rfl) h).faultless
    · exact (Expr.passesLoosely (.inr rfl) h).faultless
  · intro expected h
    exact (Expr.passesFreely h).faultless

theorem check_loosens_unread :
    let e : Expr := .binary .sub (.error "unexpected token" "$" ⟨0, 1⟩) (.number "1" ⟨4, 5⟩) ⟨0, 5⟩
    Faultless (e.check .bare .number).diagnostics ∧
      Faultless (e.check .bare .numberOrString).diagnostics ∧
      Faultless (e.check .bare .unknown).diagnostics := by
  intro e
  have h : Faultless (e.check .bare .number).diagnostics := by
    simp [e, Expr.check, SemanticType.refusesOperators, operationType, operatorProblem?,
      rightExpected, checkLiteral]
  exact ⟨h, (check_loosens .bare e).1 (.inl h), (check_loosens .bare e).2 .number h⟩

end EventSheet
