import EventSheet.Proofs.Syntax.Concrete

/-!
# Levels of nesting

How deep a tree nests can be counted in two ways. `Concrete.levels` counts the groups, signs,
operators, arguments and indices on the way down to a token, each as one level. `Concrete.demand`
counts the levels that reading uses up: an operator takes one level from all that is read after it
in its chain, and its right operand takes another one for itself. So the operands at the end of a
long chain are charged for the operators before them, which stand beside them in the tree and not
above them. How far the two can be apart is `Concrete.demand_le`.
-/

namespace EventSheet

/-- The number of operations on the left edge of a tree, each the left operand of the next. -/
def Concrete.chain : Concrete → Nat
  | .operation _ _ left _ => left.chain + 1
  | _ => 0

mutual

/-- The most levels on a way down to a token: groups, signs, operators, arguments and indices count
one level each. -/
def Concrete.levels : Concrete → Nat
  | .number _ | .string _ | .name _ | .call _ _ _ => 0
  | .group _ inner _ => inner.levels + 1
  | .signed _ _ operand => operand.levels + 1
  | .operation _ _ left right => max left.levels right.levels + 1
  | .callWith _ _ first rest _ => max (first.levels + 1) rest.levels
  | .access _ accessors => accessors.levels

def Arguments.levels : Arguments → Nat
  | .nil => 0
  | .cons _ argument rest => max (argument.levels + 1) rest.levels

def Accessors.levels : Accessors → Nat
  | .nil => 0
  | .child _ _ rest => rest.levels
  | .index _ index _ rest => max (index.levels + 1) rest.levels

end

mutual

/-- The levels that reading the tree takes. The right operand of an operator is read after one level
for each operator of the chain, this one included, and one for the operations themselves. -/
def Concrete.demand : Concrete → Nat
  | .number _ | .string _ | .name _ | .call _ _ _ => 1
  | .group _ inner _ => inner.demand + 1
  | .signed _ _ operand => operand.demand + 1
  | .operation _ _ left right => max left.demand (right.demand + left.chain + 2)
  | .callWith _ _ first rest _ => max first.demand rest.demand + 1
  | .access _ accessors => accessors.demand + 1

def Arguments.demand : Arguments → Nat
  | .nil => 0
  | .cons _ argument rest => max argument.demand rest.demand

def Accessors.demand : Accessors → Nat
  | .nil => 0
  | .child _ _ rest => rest.demand
  | .index _ index _ rest => max index.demand rest.demand

end

theorem Concrete.demand_pos (c : Concrete) : 0 < c.demand := by
  cases c <;> simp only [Concrete.demand] <;> omega

theorem Concrete.chain_le_levels : ∀ c : Concrete, c.chain ≤ c.levels
  | .operation _ _ a b => by
    have ha := a.chain_le_levels
    rw [chain, levels]
    omega
  | .number _ | .string _ | .name _ | .group _ _ _ | .signed _ _ _ | .call _ _ _
  | .callWith _ _ _ _ _ | .access _ _ => Nat.zero_le _

/-- Where no operator can stand there is no chain. -/
theorem Concrete.chain_eq_zero {c : Concrete} (h : c.In .primary) : c.chain = 0 := by
  cases c with
  | operation o t a b =>
    rw [Concrete.In] at h
    exact absurd h.1 (by cases o <;> decide)
  | number | string | name | group | signed | call | callWith | access => rfl

/-! ### The most levels that reading takes -/

/-- Three times the most levels that reading takes for a tree of a layer, when the tree has `n` of
them. -/
def thriceMostDemand : Layer → Nat → Nat
  | .sum, n => (n + 2) * (n + 3)
  | .product, n => n * (n + 4) + 6
  | .unary, n | .power, n | .primary, n => n * (n + 3) + 5

theorem thriceMostDemand_sum_succ (n : Nat) :
    thriceMostDemand .sum (n + 1) = thriceMostDemand .product n + 3 * (n + 2) := by
  unfold thriceMostDemand
  grind

theorem thriceMostDemand_product_succ (n : Nat) :
    thriceMostDemand .product (n + 1) = thriceMostDemand .unary n + 3 * (n + 2) := by
  unfold thriceMostDemand
  grind

theorem thriceMostDemand_unary_succ (n : Nat) :
    thriceMostDemand .unary (n + 1) = thriceMostDemand .unary n + 2 * (n + 2) := by
  unfold thriceMostDemand
  grind

theorem thriceMostDemand_primary_succ (n : Nat) :
    thriceMostDemand .primary (n + 1) = thriceMostDemand .sum n + 3 := by
  unfold thriceMostDemand
  grind

/-- The weaker layers hold all that the stronger ones hold. -/
theorem thriceMostDemand_anti {l m : Layer} (h : l ≤ m) (n : Nat) :
    thriceMostDemand m n ≤ thriceMostDemand l n := by
  have hproduct : n * (n + 3) + 5 ≤ n * (n + 4) + 6 := by grind
  have hsum : n * (n + 4) + 6 ≤ (n + 2) * (n + 3) := by grind
  revert h
  cases l <;> cases m <;> simp only [thriceMostDemand] <;> intro h <;>
    first | omega | exact absurd h (by decide)

theorem thriceMostDemand_mono (l : Layer) {m n : Nat} (h : m ≤ n) :
    thriceMostDemand l m ≤ thriceMostDemand l n := by
  cases l with
  | sum => exact Nat.mul_le_mul (Nat.add_le_add_right h 2) (Nat.add_le_add_right h 3)
  | product => exact Nat.add_le_add_right (Nat.mul_le_mul h (Nat.add_le_add_right h 4)) 6
  | unary | power | primary =>
    exact Nat.add_le_add_right (Nat.mul_le_mul h (Nat.add_le_add_right h 3)) 5

/-- A tree that closes its level makes a value of one more level. -/
theorem thriceMostDemand_inside {d n : Nat} (h : 3 * d ≤ thriceMostDemand .sum n) :
    3 * (d + 1) ≤ thriceMostDemand .primary (n + 1) := by
  rw [thriceMostDemand_primary_succ]
  omega

/-- An operand without a chain before it takes two levels more at most. -/
theorem thriceMostDemand_operand {d n : Nat} (h : 3 * d ≤ thriceMostDemand .unary n) :
    3 * (d + 2) ≤ thriceMostDemand .unary (n + 1) := by
  rw [thriceMostDemand_unary_succ]
  cases n with
  | zero =>
    have hzero : thriceMostDemand .unary 0 = 5 := rfl
    omega
  | succ n => omega

/-- What holds two parts takes as many levels to read as one of them. -/
theorem thriceMostDemand_max {l : Layer} {d d' n n' : Nat} (h : 3 * d ≤ thriceMostDemand l n)
    (h' : 3 * d' ≤ thriceMostDemand l n') : 3 * max d d' ≤ thriceMostDemand l (max n n') := by
  have hleft := Nat.le_trans h (thriceMostDemand_mono l (Nat.le_max_left n n'))
  have hright := Nat.le_trans h' (thriceMostDemand_mono l (Nat.le_max_right n n'))
  omega

/-- The right operand of an operator, behind a chain of operators of no more levels. -/
theorem Operator.thriceMostDemand_right (o : Operator) {a : Concrete} {d n : Nat}
    (ha : a.In o.leftLayer) (hchain : a.chain ≤ n) (h : 3 * d ≤ thriceMostDemand o.rightLayer n) :
    3 * (d + a.chain + 2) ≤ thriceMostDemand o.layer (n + 1) := by
  cases o with
  | add | sub =>
    have hsucc := thriceMostDemand_sum_succ n
    simp only [Operator.rightLayer, Operator.layer] at h ⊢
    omega
  | mul | div =>
    have hsucc := thriceMostDemand_product_succ n
    simp only [Operator.rightLayer, Operator.layer] at h ⊢
    omega
  | pow =>
    rw [Concrete.chain_eq_zero ha]
    exact thriceMostDemand_operand h

theorem Operator.thriceMostDemand_left (o : Operator) (n : Nat) :
    thriceMostDemand o.leftLayer n ≤ thriceMostDemand o.layer (n + 1) :=
  Nat.le_trans (thriceMostDemand_anti o.layer_le_leftLayer n)
    (thriceMostDemand_mono o.layer (Nat.le_succ n))

mutual

/-- A tree with few levels takes few levels to read. -/
theorem Concrete.demand_le :
    ∀ (c : Concrete) {l : Layer}, c.In l → 3 * c.demand ≤ thriceMostDemand l c.levels
  | .number _, l, _ | .string _, l, _ | .name _, l, _ | .call _ _ _, l, _ => by
    simp only [Concrete.demand, Concrete.levels]
    cases l <;> decide
  | .group _ e _, l, h => by
    rw [Concrete.In] at h
    exact Nat.le_trans (thriceMostDemand_inside (e.demand_le h.2.1))
      (thriceMostDemand_anti l.le_primary _)
  | .signed _ _ e, l, h => by
    rw [Concrete.In] at h
    have hunary := thriceMostDemand_operand (e.demand_le h.2.2)
    have hl := thriceMostDemand_anti h.1 (e.levels + 1)
    rw [Concrete.demand, Concrete.levels]
    omega
  | .operation o _ a b, l, h => by
    rw [Concrete.In] at h
    obtain ⟨hl, -, ha, hb⟩ := h
    have hleft := Nat.le_trans (a.demand_le ha)
      (thriceMostDemand_mono _ (Nat.le_max_left a.levels b.levels))
    have hright := Nat.le_trans (b.demand_le hb)
      (thriceMostDemand_mono _ (Nat.le_max_right a.levels b.levels))
    have hchain := Nat.le_trans a.chain_le_levels (Nat.le_max_left a.levels b.levels)
    have hoperands := o.thriceMostDemand_right ha hchain hright
    have hup := o.thriceMostDemand_left (max a.levels b.levels)
    have hweaken := thriceMostDemand_anti hl (max a.levels b.levels + 1)
    rw [Concrete.demand, Concrete.levels]
    omega
  | .callWith _ _ e es _, l, h => by
    rw [Concrete.In] at h
    obtain ⟨-, -, he, hes, -⟩ := h
    have harguments := thriceMostDemand_max (thriceMostDemand_inside (e.demand_le he))
      (es.demand_le hes)
    have hl := thriceMostDemand_anti l.le_primary (max (e.levels + 1) es.levels)
    rw [Concrete.demand, Concrete.levels]
    omega
  | .access _ as, l, h => by
    rw [Concrete.In] at h
    exact Nat.le_trans (as.demand_le h.2.2) (thriceMostDemand_anti l.le_primary _)

theorem Arguments.demand_le :
    ∀ as : Arguments, as.InSum → 3 * (as.demand + 1) ≤ thriceMostDemand .primary as.levels
  | .nil, _ => by decide
  | .cons _ e es, h => by
    rw [Arguments.InSum] at h
    have hmax := thriceMostDemand_max (thriceMostDemand_inside (e.demand_le h.2.1))
      (es.demand_le h.2.2)
    rw [Arguments.demand, Arguments.levels]
    omega

theorem Accessors.demand_le :
    ∀ as : Accessors, as.InSum → 3 * (as.demand + 1) ≤ thriceMostDemand .primary as.levels
  | .nil, _ => by decide
  | .child _ _ as, h => by
    rw [Accessors.InSum] at h
    exact as.demand_le h.2.2
  | .index _ e _ as, h => by
    rw [Accessors.InSum] at h
    have hmax := thriceMostDemand_max (thriceMostDemand_inside (e.demand_le h.2.1))
      (as.demand_le h.2.2.2)
    rw [Accessors.demand, Accessors.levels]
    omega

end

/-- Reading has enough levels for every tree of up to twenty-two. -/
theorem Concrete.demand_le_nestingLimit {c : Concrete} (hc : c.In .sum) (h : c.levels ≤ 22) :
    c.demand ≤ nestingLimit := by
  have hle := Nat.le_trans (c.demand_le hc) (thriceMostDemand_mono .sum h)
  have hmost : thriceMostDemand .sum 22 = 3 * nestingLimit := rfl
  omega

end EventSheet
