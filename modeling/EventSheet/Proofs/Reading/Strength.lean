import EventSheet.Proofs.Syntax.Concrete

/-!
# Strengths and layers

Reading asks by a number how strongly operators have to bind, the grammar asks by a layer. The two
agree on every strength that reading asks for: an operator is taken where its operations are in the
layer of the strength, and it asks for the layer of its right operand.
-/

namespace EventSheet

/-- The greatest strength that reading asks for. -/
def strongest : Nat := 6

/-- The layer whose operators bind at least as strongly as asked for. -/
def layerAt (strength : Nat) : Layer :=
  if strength ≤ 1 then .sum else if strength ≤ 3 then .product else .unary

theorem layerAt_signStrength : layerAt signStrength = .unary := rfl

theorem signStrength_le_strongest : signStrength ≤ strongest := by decide

theorem layerAt_le_unary (strength : Nat) : layerAt strength ≤ .unary := by
  unfold layerAt
  split
  · decide
  · split <;> decide

/-- How an operator binds. -/
def Operator.binding : Operator → Binding
  | add => ⟨.add, 1, 2⟩
  | sub => ⟨.sub, 1, 2⟩
  | mul => ⟨.mul, 3, 4⟩
  | div => ⟨.div, 3, 4⟩
  | pow => ⟨.pow, 7, 6⟩

@[simp] theorem Operator.binding_operator (o : Operator) : o.binding.operator = o := by
  cases o <;> rfl

theorem Operator.binding?_kind (o : Operator) : o.kind.binding? = some o.binding := by
  cases o <;> rfl

theorem TokenKind.eq_of_binding? {k : TokenKind} {b : Binding} (h : k.binding? = some b) :
    ∃ o : Operator, k = o.kind ∧ b = o.binding := by
  cases k <;> simp only [TokenKind.binding?, Option.some.injEq, reduceCtorEq] at h
  · exact ⟨.add, rfl, h.symm⟩
  · exact ⟨.sub, rfl, h.symm⟩
  · exact ⟨.mul, rfl, h.symm⟩
  · exact ⟨.div, rfl, h.symm⟩
  · exact ⟨.pow, rfl, h.symm⟩

theorem Operator.layerAt_right (o : Operator) : layerAt o.binding.right = o.rightLayer := by
  cases o <;> rfl

theorem Operator.right_le_strongest (o : Operator) : o.binding.right ≤ strongest := by
  cases o <;> decide

/-- An operator binds too weakly for a strength exactly when it is not of the layer. -/
theorem Operator.left_lt_iff (o : Operator) {strength : Nat} (h : strength ≤ strongest) :
    o.binding.left < strength ↔ ¬ layerAt strength ≤ o.layer := by
  revert strength
  cases o <;> decide

/-- Where a kind of token binds nothing, no layer goes on. -/
theorem Layer.stops_of_binding?_eq_none {l : Layer} {t : Token} (h : t.kind.binding? = none)
    (ts : List Token) : l.Stops (t :: ts) := by
  intro o ho
  rw [ho, o.binding?_kind] at h
  exact nomatch h

theorem TokenKind.binding?_of_isBoundary {k : TokenKind} (h : k.isBoundary = true) :
    k.binding? = none := by
  revert h
  cases k <;> decide

/-- The kind of token a sign is read from. -/
theorem TokenKind.eq_of_sign? {k : TokenKind} {s : Sign} (h : k.sign? = some s) : k = s.kind := by
  cases k <;> simp only [TokenKind.sign?, Option.some.injEq, reduceCtorEq] at h
  · exact h ▸ rfl
  · exact h ▸ rfl

theorem Sign.sign?_kind (s : Sign) : s.kind.sign? = some s := by
  cases s <;> rfl

end EventSheet
