import EventSheet.Proofs.Typing.Correctness
import EventSheet.Proofs.Typing.Loosening
import EventSheet.Proofs.Typing.Telling

/-!
# Texts and operators

Texts are joined by `+` and take no other operator: in what is accepted no text stands before
another operator or behind a sign. Behind an operator one may stand after a left operand that may be
either a number or a text, because the left operand decides what the operation is about, and it
decides nothing there: `operands_not_texts`.
-/

namespace EventSheet

section Definitions

variable (ctx : Context)

/-- The call names a function, and the function returns values of the type. -/
def Context.Returns (callee : Callee) (t : SemanticType) : Prop :=
  ∃ f, (ctx.lookup callee).signature = some f ∧ SemanticType.ofKind f.returnKind = t

/-- An expression that is a text by its form: a literal, a call that returns texts, or a sum that
begins with a text. -/
inductive IsText : Expr → Prop
  | literal {value : String} {s : Span} : IsText (.string value s)
  | call {callee : Callee} {es : List Expr} {s : Span} :
      ctx.Returns callee .string → IsText (.call callee es s)
  | join {a b : Expr} {s : Span} : IsText a → IsText (.binary .add a b s)

/-- An expression that may be either a number or a text by its form: a call that returns either, or
an operation that begins with such an expression. -/
inductive IsEither : Expr → Prop
  | call {callee : Callee} {es : List Expr} {s : Span} :
      ctx.Returns callee .numberOrString → IsEither (.call callee es s)
  | operation {operator : Operator} {a b : Expr} {s : Span} :
      IsEither a → IsEither (.binary operator a b s)

end Definitions

section Operands

variable {ctx : Context} {a b e : Expr} {expected : SemanticType}

/-- A text passes only where texts may stand, and is recognised there. -/
theorem IsText.check (h : IsText ctx e) (hexpected : expected ≠ .unknown)
    (hf : Faultless (e.check ctx expected).diagnostics) :
    (expected = .string ∨ expected = .numberOrString) ∧ (e.check ctx expected).type = .string := by
  induction h with
  | literal =>
    rw [Expr.check] at hf ⊢
    have hfits : SemanticType.string.fits expected = true := checkLiteral_fits hf
    cases expected <;> simp_all [SemanticType.fits, checkLiteral]
  | call hreturns =>
    obtain ⟨f, hfound, hstring⟩ := hreturns
    obtain ⟨g, hg, hreturn, htype, -⟩ := check_call_faultless_iff.1 ⟨hf, rfl⟩
    obtain rfl : f = g := Option.some.inj (hfound.symm.trans hg.found)
    rw [← htype, hstring]
    rw [hstring] at hreturn
    cases expected <;> simp_all [SemanticType.returnsFor]
  | join _ ih =>
    obtain ⟨hrefuse, ha, -, -⟩ := (check_binary_faultless_iff .add _).1 hf
    obtain ⟨hplace, htype⟩ := ih ha
    refine ⟨hplace, ?_⟩
    rw [check_binary_type .add _ hrefuse, htype]
    rcases hplace with rfl | rfl <;> rfl

/-- What the judgement gives either type is of either type by its form. -/
theorem HasType.isEither {naming : Naming} (h : HasType ctx naming e .numberOrString) :
    IsEither ctx e := by
  induction e with
  | binary operator a b s iha _ =>
    cases h with
    | either ha _ => exact .operation (iha ha)
  | call callee es s _ =>
    obtain ⟨f, hf, -, htype, -⟩ := hasType_call_iff.1 h
    exact .call ⟨f, hf.found, htype⟩
  | _ => exact nomatch h

theorem not_isText_of_sign {sign : Sign} {s : Span}
    (hf : Faultless ((Expr.unary sign e s).check ctx expected).diagnostics) : ¬ IsText ctx e := by
  intro htext
  obtain ⟨-, he⟩ := (check_unary_faultless_iff sign s).1 hf
  obtain ⟨hplace, -⟩ := htext.check (by decide) he
  simp at hplace

/-- The operands of an operator other than `+` where something is required. -/
theorem not_isText_of_operator {operator : Operator} {s : Span} (hlegible : a.Legible)
    (hoperator : operator ≠ .add) (hexpected : expected ≠ .unknown)
    (hf : Faultless ((Expr.binary operator a b s).check ctx expected).diagnostics) :
    ¬ IsText ctx a ∧ (IsText ctx b → IsEither ctx a) := by
  obtain ⟨-, ha, hadd, hb⟩ := (check_binary_faultless_iff operator s).1 hf
  have hnumbers : operationType (a.check ctx expected).type expected ≠ .string :=
    fun h => hoperator (hadd h)
  have hplace : expected ≠ .string := by
    rintro rfl
    exact hnumbers rfl
  constructor
  · intro htext
    obtain ⟨hstring | hloose, htype⟩ := htext.check hexpected ha
    · exact hplace hstring
    · apply hnumbers
      rw [htype, hloose]
      rfl
  · intro htext
    by_cases hloose : expected = .numberOrString
    · subst hloose
      have htyped := ((a.agrees ctx hlegible).either _).1 ⟨ha, rfl⟩
      have hsettled : operationType (a.check ctx .numberOrString).type .numberOrString =
          (a.check ctx .numberOrString).type := if_pos htyped.isValue
      rw [rightExpected_numberOrString, hsettled] at hb
      rw [hsettled] at hnumbers
      have hunknown : (a.check ctx .numberOrString).type ≠ .unknown := by
        intro h
        have hvalue := htyped.isValue
        rw [h] at hvalue
        exact nomatch hvalue
      obtain ⟨hstring | heither, -⟩ := htext.check hunknown hb
      · exact absurd hstring hnumbers
      · rw [heither] at htyped
        exact htyped.isEither
    · have hright : rightExpected (operationType (a.check ctx expected).type expected) expected =
          expected := if_neg hloose
      rw [hright] at hb
      obtain ⟨hstring | heither, -⟩ := htext.check hexpected hb
      · exact absurd hstring hplace
      · exact absurd heither hloose

end Operands

/-! ### Every node is checked where something is required -/

/-- The expression was checked where something is required, and passed. -/
def Accepted (ctx : Context) (e : Expr) : Prop :=
  ∃ expected, expected ≠ SemanticType.unknown ∧ Faultless (e.check ctx expected).diagnostics

section Nodes

variable {ctx : Context}

theorem checkIndices_faultless_iff {as : List Accessor} :
    Faultless (checkIndices ctx as) ↔
      ∀ e ∈ indices as, Faultless (e.check ctx .numberOrString).diagnostics := by
  simp only [Faultless, mem_checkIndices_iff]
  constructor
  · intro h e he d hd
    exact h d ⟨e, he, hd⟩
  · rintro h d ⟨e, he, hd⟩
    exact h e he d hd

/-- An argument that is accepted passed a check, unless it is a bare name. -/
theorem argument_accepted {e : Expr} {p : Parameter} {position : Nat} {context : Option String}
    (h : Faultless ((written ctx e p position).diagnostics ctx.scope context)) :
    (∃ name, e.identifier? = some name) ∨ Accepted ctx e := by
  have hparameter : (written ctx e p position).parameter = p := rfl
  unfold Argument.diagnostics at h
  rw [hparameter] at h
  split at h
  next => simp [Argument.problem, Problem.severity] at h
  next =>
    rw [Argument.value_faultless_iff (Expr.check_fits fun h => absurd h (by decide))] at h
    exact .inr ⟨.number, by decide, h⟩
  next =>
    rw [Argument.value_faultless_iff (Expr.check_fits fun h => absurd h (by decide))] at h
    exact .inr ⟨.string, by decide, h⟩
  next => exact .inl (object_faultless_iff.1 h)
  next =>
    obtain ⟨-, ⟨name, s, rfl⟩ | ⟨name, as, s, rfl, has⟩⟩ := variableRef_faultless_iff.1 h
    · exact .inl ⟨name, rfl⟩
    · refine .inr ⟨.var, by decide, ?_⟩
      rwa [Expr.check]
  next =>
    obtain ⟨name, -, hname, -⟩ := Argument.behavior_faultless_iff.1 h
    exact .inl ⟨name, hname⟩

theorem arguments_accepted {es : List Expr} {ps : List Parameter} {position : Nat}
    {context : Option String} (hlen : es.length ≤ ps.length)
    (h : Faultless (checkArguments ctx context position es ps)) :
    ∀ e ∈ es, (∃ name, e.identifier? = some name) ∨ Accepted ctx e := by
  induction es generalizing ps position context with
  | nil => simp
  | cons e es ih =>
    cases ps with
    | nil => simp at hlen
    | cons p ps =>
      rw [checkArguments, faultless_append] at h
      intro n hn
      rcases List.mem_cons.1 hn with rfl | hn
      · exact argument_accepted h.1
      · exact ih (Nat.le_of_succ_le_succ hlen) h.2 n hn

theorem rightExpected_ne_unknown {expected : SemanticType} (left : SemanticType)
    (h : expected ≠ .unknown) :
    rightExpected (operationType left expected) expected ≠ .unknown := by
  revert h
  cases left <;> cases expected <;> decide

theorem Expr.nodes_of_identifier? {e : Expr} {name : String} (h : e.identifier? = some name) :
    e.nodes = [e] := by
  cases e with
  | identifier n s => rfl
  | _ => exact nomatch h

theorem checkAccess_faultless {inside : List Diagnostic} {expected : SemanticType} {s : Span}
    (h : Faultless (checkAccess inside expected s).diagnostics) : Faultless inside := by
  cases expected <;> simp_all [checkAccess]

/-- In a tree that is accepted every node is accepted where it stands, unless it is a bare name. -/
theorem Accepted.nodes {e n : Expr} (h : Accepted ctx e) (hn : n ∈ e.nodes) :
    (∃ name, n.identifier? = some name) ∨ Accepted ctx n := by
  induction e with
  | number | string | identifier | empty | error =>
    rw [List.mem_singleton.1 hn]
    exact .inr h
  | unary sign a s ih =>
    rcases List.mem_cons.1 hn with rfl | hn
    · exact .inr h
    obtain ⟨expected, -, hf⟩ := h
    obtain ⟨-, ha⟩ := (check_unary_faultless_iff sign s).1 hf
    exact ih ⟨.number, by decide, ha⟩ hn
  | binary operator a b s iha ihb =>
    rcases List.mem_cons.1 hn with rfl | hn
    · exact .inr h
    obtain ⟨expected, hexpected, hf⟩ := h
    obtain ⟨-, ha, -, hb⟩ := (check_binary_faultless_iff operator s).1 hf
    have hn : n ∈ a.nodes ++ b.nodes := hn
    rcases List.mem_append.1 hn with hn | hn
    · exact iha ⟨expected, hexpected, ha⟩ hn
    · exact ihb ⟨_, rightExpected_ne_unknown _ hexpected, hb⟩ hn
  | call callee es s ih =>
    rcases List.mem_cons.1 hn with rfl | hn
    · exact .inr h
    obtain ⟨expected, -, hf⟩ := h
    obtain ⟨f, hcallable, -, -, hargs⟩ := check_call_faultless_iff.1 ⟨hf, rfl⟩
    obtain ⟨e, he, hn⟩ := mem_argumentNodes_iff.1 hn
    rcases arguments_accepted hcallable.most hargs e he with ⟨name, hname⟩ | haccepted
    · rw [Expr.nodes_of_identifier? hname, List.mem_singleton] at hn
      exact .inl ⟨name, hn ▸ hname⟩
    · exact ih e he haccepted hn
  | access name as s ih =>
    rcases List.mem_cons.1 hn with rfl | hn
    · exact .inr h
    obtain ⟨expected, -, hf⟩ := h
    rw [Expr.check] at hf
    obtain ⟨e, he, hn⟩ := mem_accessorNodes_iff.1 hn
    have hindex := checkIndices_faultless_iff.1 (checkAccess_faultless hf) e he
    exact ih e he ⟨.numberOrString, by decide, hindex⟩ hn

theorem Expr.Legible.of_mem {e n : Expr} (h : e.Legible) (hn : n ∈ e.nodes) : n.Legible :=
  fun m hm => h m (Expr.nodes_trans hm hn)

end Nodes

/-- Texts take no operator but `+`. In a text that is accepted where something is required no
operand of a sign is a text, and of the operands of another operator than `+` the left one never is;
the right one is only where the left one may be either a number or a text. -/
theorem operands_not_texts {ctx : Context} {expected : SemanticType} {source : String}
    (hexpected : expected ≠ .unknown) (h : (checkText ctx expected source).hasErrors = false) :
    (∀ sign e s, Expr.unary sign e s ∈ (checkText ctx expected source).root.nodes →
        ¬ IsText ctx e) ∧
      ∀ operator a b s, Expr.binary operator a b s ∈ (checkText ctx expected source).root.nodes →
        operator ≠ .add → ¬ IsText ctx a ∧ (IsText ctx b → IsEither ctx a) := by
  obtain ⟨hok, hf⟩ := faultless_of_hasErrors h
  have hroot : Accepted ctx (parse source).root := ⟨expected, hexpected, hf⟩
  refine ⟨?_, ?_⟩
  · intro sign e s hn
    obtain ⟨name, hname⟩ | ⟨t, -, ht⟩ := hroot.nodes hn
    · exact nomatch hname
    · exact not_isText_of_sign ht
  · intro operator a b s hn hoperator
    obtain ⟨name, hname⟩ | ⟨t, hknown, ht⟩ := hroot.nodes hn
    · exact nomatch hname
    · have ha : a ∈ (Expr.binary operator a b s).nodes := .tail _ (.head _)
      have hlegible := ((legible_of_ok hok).of_mem hn).of_mem ha
      exact not_isText_of_operator hlegible hoperator hknown ht

/-- A function that returns a number or a text, whichever. -/
def Context.loose : Context where
  provider :=
    { freeFunction := fun name =>
        if name = "Any" then some ⟨"Any", "number|string", [], none, ""⟩ else none
      objectFunction := fun _ _ => none
      behaviorFunction := fun _ _ => none
      objectType := fun _ => none }
  scope := .empty

theorem operands_not_texts_product :
    (checkText .loose .numberOrString "Any() * (1 - 2) + \"x\"").hasErrors = false ∧
      ∀ operator a b s, Expr.binary operator a b s ∈
          (checkText .loose .numberOrString "Any() * (1 - 2) + \"x\"").root.nodes →
        operator ≠ .add → ¬ IsText .loose a ∧ (IsText .loose b → IsEither .loose a) :=
  have h : (checkText .loose .numberOrString "Any() * (1 - 2) + \"x\"").hasErrors = false := by
    decide +kernel
  ⟨h, (operands_not_texts (by decide) h).2⟩

/-- A text on the right of a minus is accepted when nothing is known of what is on its left. -/
theorem text_accepted_after_minus :
    (checkText .loose .numberOrString "Any() - \"x\"").hasErrors = false ∧
      ∃ a b s, Expr.binary .sub a b s ∈
        (checkText .loose .numberOrString "Any() - \"x\"").root.nodes ∧ IsText .loose b := by
  refine ⟨by decide +kernel, ?_⟩
  have hroot : (checkText .loose .numberOrString "Any() - \"x\"").root =
      .binary .sub (.call (.free ⟨"Any", ⟨0, 3⟩⟩) [] ⟨0, 5⟩) (.string "x" ⟨8, 11⟩) ⟨0, 11⟩ := by
    with_unfolding_all rfl
  rw [hroot]
  exact ⟨_, _, _, .head _, .literal⟩

end EventSheet
