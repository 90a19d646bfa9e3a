import EventSheet.Proofs.Reading.Effects
import EventSheet.Proofs.Reading.Height

/-!
# The nesting counter

Instead of being handed the levels that are left, reading can keep a counter of the levels it has
entered. Entering an expression and taking an operator count one up, and leaving the expression sets
the counter back to what it was. `Counting.expression` reads that way, and it gives what reading
with the levels left gives, with the counter as it was before: `Counting.expression_gives`. Together
with the height of trees this bounds the recursion of reading and of what walks down a tree:
`recursion_bounded`.
-/

namespace EventSheet

open Effectful (Counting Gives)

namespace Counting

/-- The loop over the operators after a left operand, at most `k` times around. The node of an
operator stands above its left operand, so its right operand is a level further down. -/
def operations (inner : Effectful.ExprReader Counting) :
    Nat → Nat → Expr → Reader → Counting (Expr × Reader)
  | 0, _, _, _ => failure
  | k + 1, strength, left, r =>
    match r.kind.binding? with
    | none => return (left, r)
    | some b => do
      if b.left < strength then return (left, r)
      set ((← get) + 1)
      let (right, r) ← inner b.right r.advance
      operations inner k strength (.binary b.operator left right (left.span.merge right.span)) r

/-- An expression whose operators bind at least as strongly as `strength`, with recursion at most
`fuel` deep. Every operator takes a token, so the loop goes around at most once for each. -/
def expression : Nat → Nat → Reader → Counting (Expr × Reader)
  | 0, _, _ => failure
  | fuel + 1, strength, r => do
    let depth ← get
    if nestingLimit ≤ depth then return tooDeep r
    set (depth + 1)
    let (left, r) ← Effectful.operand (fun strength r => expression fuel strength r) r
    let result ← operations (fun strength r => expression fuel strength r) (r.tokens.length + 1)
      strength left r
    set depth
    return result

/-- Whether expressions are read as the levels that are left ask for, at every count from the given
one on. -/
def KeepsFrom (inner : Effectful.ExprReader Counting) (depth : Nat) : Prop :=
  ∀ d, depth ≤ d → inner.Keeps d fun strength r => EventSheet.expression (nestingLimit - d) strength r

/-- An operator takes a token. -/
theorem tokens_length_of_operator {r : Reader} {b : Binding} (h : r.kind.binding? = some b)
    (levels strength : Nat) :
    (EventSheet.expression levels strength r.advance).2.tokens.length < r.tokens.length := by
  have hle := (expression_leads levels strength r.advance).tokens.length_le
  exact Nat.lt_of_le_of_lt hle (Reader.advance_lt rfl (Reader.kind_ne_eof_of_binding h))

section

variable {inner : Effectful.ExprReader Counting}

/-- The loop over the operators stops by itself, and counts up on the way. -/
theorem operations_gives {k depth : Nat} (hi : KeepsFrom inner depth) (strength : Nat)
    {left : Expr} {r : Reader} (hk : r.tokens.length < k) :
    ∃ depth', Gives (operations inner k strength left r) depth
      (EventSheet.operations (nestingLimit - depth) strength left r) depth' := by
  induction k generalizing depth left r with
  | zero => exact absurd hk (Nat.not_lt_zero _)
  | succ k ih =>
    rw [operations]
    cases hb : r.kind.binding? with
    | none =>
      rw [operations_of_none _ left hb]
      exact ⟨depth, .pure _ _⟩
    | some b =>
      dsimp only
      by_cases hlt : b.left < strength
      · rw [operations_of_lt _ left hb hlt, if_pos hlt]
        exact ⟨depth, .pure _ _⟩
      · have hshorter := tokens_length_of_operator hb (nestingLimit - (depth + 1)) b.right
        obtain ⟨depth', hrest⟩ := ih (fun d hd => hi d (Nat.le_of_succ_le hd))
          (Nat.lt_of_lt_of_le hshorter (Nat.le_of_lt_succ hk))
        rw [operations_next _ left hb hlt, if_neg hlt, Nat.sub_sub]
        refine ⟨depth', (Gives.get depth).bind ((Gives.set depth (depth + 1)).bind ?_)⟩
        exact (hi (depth + 1) (Nat.le_succ depth) b.right r.advance).bind hrest

end

/-- Reading with a counter gives what reading with the levels left gives, and leaves the counter as
it was. -/
theorem expression_gives {fuel depth : Nat} (hfuel : nestingLimit - depth < fuel) (strength : Nat)
    (r : Reader) :
    Gives (expression fuel strength r) depth
      (EventSheet.expression (nestingLimit - depth) strength r) depth := by
  induction fuel generalizing depth strength r with
  | zero => exact absurd hfuel (Nat.not_lt_zero _)
  | succ fuel ih =>
    rw [expression]
    refine (Gives.get depth).bind ?_
    by_cases hlimit : nestingLimit ≤ depth
    · rw [if_pos hlimit, Nat.sub_eq_zero_of_le hlimit]
      exact .pure _ _
    · rw [if_neg hlimit]
      have hlevels : nestingLimit - depth = nestingLimit - (depth + 1) + 1 := by omega
      have hi : KeepsFrom (fun strength r => expression fuel strength r) (depth + 1) :=
        fun d hd strength r => ih (by omega) strength r
      obtain ⟨depth', hloop⟩ := operations_gives hi strength
        (Nat.lt_succ_self (operand _ r).2.tokens.length)
      rw [hlevels, expression_succ]
      refine (Gives.set depth (depth + 1)).bind ?_
      refine (Effectful.operand_gives (hi (depth + 1) (Nat.le_refl _)) r).bind ?_
      exact hloop.bind ((Gives.set depth' depth).bind (.pure _ depth))

end Counting

/-- Recursion is bounded. The height of a tree is at most what the nesting limit allows, whatever
text it is read from. And reading an expression with a counter comes to an end at every place and
at every count, gives what reading with the levels left gives, and leaves the counter as it was,
where the fuel is more than the levels left. -/
theorem recursion_bounded :
    (∀ source, (parse source).root.height ≤ nestingLimit * (nestingLimit + 2) / 2) ∧
    ∀ n depth strength r,
      (Counting.expression (nestingLimit - depth + 1 + n) strength r).run depth =
        some (expression (nestingLimit - depth) strength r, depth) := by
  refine ⟨parse_root_height, fun n depth strength r => ?_⟩
  exact Counting.expression_gives (by omega) strength r

end EventSheet
