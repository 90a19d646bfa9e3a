import EventSheet.Diagnostic.Basic
import EventSheet.Proofs.Syntax.Nodes
import EventSheet.Token.Basic

/-!
# What does not depend on places

The form of a token, a tree or a problem is what it is, wherever it stands: spans are forgotten, and
so is the text that an error node stands for, which may hold blanks. What the user is told of a
problem, the places aside, depends on its form alone: `Problem.told_eq_of_form`.
-/

namespace EventSheet

/-! ### Trees -/

/-- A name, wherever it stands. -/
def Name.form (n : Name) : Name := ⟨n.text, .point 0⟩

/-- A callee, wherever its names stand. -/
def Callee.form : Callee → Callee
  | free f => free f.form
  | onObject o f => onObject o.form f.form
  | onBehavior o b f => onBehavior o.form b.form f.form

mutual

/-- A tree, wherever its nodes stand and whatever text could not be read. -/
@[simp] def Expr.form : Expr → Expr
  | .number text _ => .number text (.point 0)
  | .string value _ => .string value (.point 0)
  | .identifier name _ => .identifier name (.point 0)
  | .access name as _ => .access name.form (accessorForms as) (.point 0)
  | .unary sign e _ => .unary sign e.form (.point 0)
  | .binary operator a b _ => .binary operator a.form b.form (.point 0)
  | .call callee es _ => .call callee.form (argumentForms es) (.point 0)
  | .empty _ => .empty (.point 0)
  | .error reason _ _ => .error reason "" (.point 0)

/-- The arguments of a call, wherever they stand. -/
@[simp] def argumentForms : List Expr → List Expr
  | [] => []
  | e :: es => e.form :: argumentForms es

/-- The accessors of a variable, wherever they stand. -/
@[simp] def accessorForms : List Accessor → List Accessor
  | [] => []
  | .child name _ :: as => .child name (.point 0) :: accessorForms as
  | .index e _ :: as => .index e.form (.point 0) :: accessorForms as

end

@[simp] theorem Expr.form_withSpan (s : Span) (e : Expr) : (e.withSpan s).form = e.form := by
  cases e <;> simp only [withSpan, form]

theorem Expr.isError_form (e : Expr) : e.form.isError = e.isError := by
  cases e <;> simp only [form, isError]

theorem Expr.isError_eq_of_form {e e' : Expr} (h : e.form = e'.form) : e.isError = e'.isError := by
  rw [← isError_form e, h, isError_form]

theorem Expr.identifier?_form (e : Expr) : e.form.identifier? = e.identifier? := by
  cases e <;> simp only [form, identifier?]

theorem argumentForms_eq_map (es : List Expr) : argumentForms es = es.map Expr.form := by
  induction es with
  | nil => rfl
  | cons e es ih => rw [argumentForms, ih, List.map_cons]

/-- The indices of a variable, wherever they stand. -/
theorem map_form_indices_of_form {as as' : List Accessor}
    (h : accessorForms as = accessorForms as') :
    (indices as).map Expr.form = (indices as').map Expr.form := by
  have hindices : ∀ as, (indices as).map Expr.form = indices (accessorForms as) := by
    intro as
    induction as with
    | nil => rfl
    | cons a as ih =>
      cases a with
      | child name s => rw [accessorForms, indices, indices, ih]
      | index e s => rw [accessorForms, indices, indices, List.map_cons, ih]
  rw [hindices, hindices, h]

/-! ### Trees of a given form -/

section

variable {e : Expr} {s : Span}

theorem Expr.eq_number_of_form {text : String} (h : (number text s).form = e.form) :
    ∃ s', e = number text s' := by
  cases e <;> simp_all [form]

theorem Expr.eq_string_of_form {value : String} (h : (string value s).form = e.form) :
    ∃ s', e = string value s' := by
  cases e <;> simp_all [form]

theorem Expr.eq_identifier_of_form {name : String} (h : (identifier name s).form = e.form) :
    ∃ s', e = identifier name s' := by
  cases e <;> simp_all [form]

theorem Expr.eq_empty_of_form (h : (empty s).form = e.form) : ∃ s', e = empty s' := by
  cases e <;> simp_all [form]

theorem Expr.eq_error_of_form {reason text : String} (h : (error reason text s).form = e.form) :
    ∃ text' s', e = error reason text' s' := by
  cases e <;> simp_all [form]

theorem Expr.eq_access_of_form {name : Name} {as : List Accessor}
    (h : (access name as s).form = e.form) :
    ∃ name' as' s', e = access name' as' s' ∧ accessorForms as = accessorForms as' := by
  cases e with
  | access name' as' s' =>
    simp only [form, access.injEq] at h
    exact ⟨name', as', s', rfl, h.2.1⟩
  | _ => simp [form] at h

theorem Expr.eq_unary_of_form {sign : Sign} {a : Expr} (h : (unary sign a s).form = e.form) :
    ∃ a' s', e = unary sign a' s' ∧ a.form = a'.form := by
  cases e <;> simp_all [form]

theorem Expr.eq_binary_of_form {operator : Operator} {a b : Expr}
    (h : (binary operator a b s).form = e.form) :
    ∃ a' b' s', e = binary operator a' b' s' ∧ a.form = a'.form ∧ b.form = b'.form := by
  cases e with
  | binary operator' a' b' s' =>
    simp only [form, binary.injEq] at h
    obtain ⟨rfl, ha, hb, -⟩ := h
    exact ⟨a', b', s', rfl, ha, hb⟩
  | _ => simp [form] at h

theorem Expr.eq_call_of_form {callee : Callee} {es : List Expr}
    (h : (call callee es s).form = e.form) :
    ∃ callee' es' s', e = call callee' es' s' ∧ callee.form = callee'.form ∧
      es.map form = es'.map form := by
  cases e with
  | call callee' es' s' =>
    simp only [form, argumentForms_eq_map, call.injEq] at h
    exact ⟨callee', es', s', rfl, h.1, h.2.1⟩
  | _ => simp [form] at h

end

/-! ### Problems -/

/-- A problem, wherever the bracket stands that was left open. -/
def Problem.form : Problem → Problem
  | unmatchedParenthesis _ => unmatchedParenthesis (.point 0)
  | unterminatedParameters _ => unterminatedParameters (.point 0)
  | unterminatedIndex _ => unterminatedIndex (.point 0)
  | problem => problem

/-- What the user is told of a diagnostic, the places aside: its code, its message, its severity and
its note. -/
def Diagnostic.told (d : Diagnostic) : Code × String × Severity × Option String :=
  (d.code, d.message, d.severity, d.problem.note?.map (·.1))

theorem Diagnostic.told_form (problem : Problem) (s : Span) :
    Diagnostic.told ⟨problem.form, s⟩ = Diagnostic.told ⟨problem, s⟩ := by
  cases problem <;> rfl

theorem Diagnostic.map_told_of_form {ds ds' : List Diagnostic}
    (h : ds.map (·.problem.form) = ds'.map (·.problem.form)) : ds.map told = ds'.map told := by
  have htold : ∀ ds : List Diagnostic,
      ds.map told = (ds.map (·.problem.form)).map fun problem => told ⟨problem, .point 0⟩ := by
    intro ds
    rw [List.map_map]
    apply List.map_congr_left
    intro d _
    exact (told_form d.problem (.point 0)).symm
  rw [htold ds, htold ds', h]

end EventSheet
