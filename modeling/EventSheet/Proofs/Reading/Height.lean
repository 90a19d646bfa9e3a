import EventSheet.Proofs.Reading.Depth
import EventSheet.Proofs.Reading.Tolerance

/-!
# How high a tree can be

Past the nesting limit reading skips to the end of the level, where no operator goes on, so the loop
over the operators of a level ends once it has reached the limit. Hence it puts no more nodes above
an operand than it has levels left, and the height of a tree is bounded whatever text it is read
from: `parse_root_height`.
-/

namespace EventSheet

/-! ### The height of a tree -/

mutual

/-- The number of nodes on the longest way down a tree. -/
def Expr.height : Expr → Nat
  | .unary _ e _ => e.height + 1
  | .binary _ a b _ => max a.height b.height + 1
  | .call _ es _ => argumentsHeight es + 1
  | .access _ as _ => accessorsHeight as + 1
  | _ => 1

/-- The height of the highest argument of a call. -/
def argumentsHeight : List Expr → Nat
  | [] => 0
  | e :: es => max e.height (argumentsHeight es)

/-- The height of the highest index in a chain of accessors. -/
def accessorsHeight : List Accessor → Nat
  | [] => 0
  | .child _ _ :: as => accessorsHeight as
  | .index e _ :: as => max e.height (accessorsHeight as)

end

theorem argumentsHeight_le_iff {es : List Expr} {n : Nat} :
    argumentsHeight es ≤ n ↔ ∀ e ∈ es, e.height ≤ n := by
  induction es with
  | nil => simp [argumentsHeight]
  | cons e es ih => rw [argumentsHeight, Nat.max_le, ih, List.forall_mem_cons]

theorem accessorsHeight_le_iff {as : List Accessor} {n : Nat} :
    accessorsHeight as ≤ n ↔ ∀ e ∈ indices as, e.height ≤ n := by
  induction as with
  | nil => simp [accessorsHeight, indices]
  | cons a as ih =>
    cases a with
    | child => rw [accessorsHeight, indices, ih]
    | index => rw [accessorsHeight, indices, Nat.max_le, ih, List.forall_mem_cons]

/-- A tree is one node higher than what stands below its root. -/
theorem Expr.height_le_succ_iff {e : Expr} {n : Nat} :
    e.height ≤ n + 1 ↔ ∀ c ∈ e.children, c.height ≤ n := by
  cases e with
  | unary => simp [height, children]
  | binary =>
    rw [height, children, Nat.add_le_add_iff_right, Nat.max_le, List.forall_mem_cons]
    simp
  | call => rw [height, children, Nat.add_le_add_iff_right, argumentsHeight_le_iff]
  | access => rw [height, children, Nat.add_le_add_iff_right, accessorsHeight_le_iff]
  | _ => simp [height, children]

theorem Expr.height_pos (e : Expr) : 0 < e.height := by
  cases e <;> exact Nat.succ_pos _

@[simp] theorem Expr.height_withSpan (s : Span) (e : Expr) : (e.withSpan s).height = e.height := by
  cases e <;> rfl

/-! ### Ways down a tree -/

theorem Expr.exists_childrenAt {c e : Expr} (h : c ∈ e.children) : ∃ l, c ∈ e.childrenAt l := by
  cases e with
  | unary => exact ⟨.operand, h⟩
  | binary _ a b _ =>
    rcases List.mem_cons.1 h with rfl | h
    · exact ⟨.left, .head _⟩
    · exact ⟨.right, h⟩
  | call => exact ⟨.argument, h⟩
  | access => exact ⟨.index, h⟩
  | _ => exact nomatch h

theorem Expr.Way.length_lt_height {e : Expr} {ls : List Level} (h : e.Way ls) :
    ls.length < e.height := by
  induction h with
  | @here e => exact e.height_pos
  | @down e c l ls hc _ ih =>
    obtain ⟨n, hn⟩ := Nat.exists_eq_succ_of_ne_zero (Nat.ne_of_gt e.height_pos)
    have hle := Expr.height_le_succ_iff.1 (Nat.le_of_eq hn) c (mem_children_of_childrenAt hc)
    rw [hn, List.length_cons]
    omega

theorem Expr.exists_way_of_height {n : Nat} {e : Expr} (h : e.height = n + 1) :
    ∃ ls, e.Way ls ∧ ls.length = n := by
  induction n generalizing e with
  | zero => exact ⟨[], .here, rfl⟩
  | succ n ih =>
    obtain ⟨c, hc, hlow⟩ : ∃ c ∈ e.children, ¬ c.height ≤ n := by
      have hnot : ¬ e.height ≤ n + 1 := by omega
      simpa [Expr.height_le_succ_iff] using hnot
    have hhigh := Expr.height_le_succ_iff.1 (Nat.le_of_eq h) c hc
    obtain ⟨ls, hls, hlength⟩ := ih (e := c) (by omega)
    obtain ⟨l, hl⟩ := Expr.exists_childrenAt hc
    exact ⟨l :: ls, .down hl hls, by rw [List.length_cons, hlength]⟩

/-- The height of a tree is one more than the levels that are passed on a longest way down it. -/
theorem Expr.height_longest (e : Expr) :
    (∃ ls, e.Way ls ∧ ls.length + 1 = e.height) ∧ ∀ ls, e.Way ls → ls.length + 1 ≤ e.height := by
  obtain ⟨n, hn⟩ := Nat.exists_eq_succ_of_ne_zero (Nat.ne_of_gt e.height_pos)
  obtain ⟨ls, hls, hlength⟩ := Expr.exists_way_of_height hn
  exact ⟨⟨ls, hls, by omega⟩, fun ls hls => hls.length_lt_height⟩

/-! ### What reading can build -/

/-- What bounds the height of a tree that is read with the given levels. The loop over the operators
puts a node for each of its levels above an operand, and one where it has none left. -/
def mostHeight : Nat → Nat
  | 0 => 1
  | n + 1 => mostHeight n + 1 + max 1 n

theorem mostHeight_succ (n : Nat) : 2 * mostHeight (n + 1) = (n + 1) * (n + 2) + 4 := by
  induction n with
  | zero => rfl
  | succ n ih =>
    have hmax : max 1 (n + 1) = n + 1 := Nat.max_eq_right (Nat.succ_le_succ (Nat.zero_le n))
    rw [mostHeight, hmax]
    grind

theorem mostHeight_le {n : Nat} (h : 4 ≤ n) : mostHeight n ≤ n * (n + 2) / 2 := by
  obtain ⟨m, rfl⟩ := Nat.exists_eq_succ_of_ne_zero (by omega : n ≠ 0)
  have htwice := mostHeight_succ m
  have hbound : (m + 1) * (m + 1 + 2) = (m + 1) * (m + 2) + (m + 1) := Nat.mul_succ _ _
  rw [Nat.succ_eq_add_one, hbound]
  omega

theorem mostHeight_mono (n : Nat) : mostHeight n ≤ mostHeight (n + 1) := by
  rw [mostHeight]
  omega

theorem mostHeight_pos (n : Nat) : 1 ≤ mostHeight n := by
  cases n with
  | zero => exact Nat.le_refl _
  | succ n => rw [mostHeight]; omega

theorem tooDeep_height (r : Reader) : (tooDeep r).1.height = 1 := rfl

/-- An operand is at most a node higher than what the reader for its parts gives. -/
theorem operand_height {inner : ExprReader} (hi : inner.Leads) {n : Nat}
    (h : ∀ s r, (inner s r).1.height ≤ n) (r : Reader) : (operand inner r).1.height ≤ n + 1 := by
  rcases operand_made hi r with ⟨c, s, heq, strength, p, rfl, -⟩ | hmade
  · rw [heq, Expr.height_withSpan]
    exact Nat.le_succ_of_le (h strength p)
  · refine Expr.height_le_succ_iff.2 fun c hc => ?_
    obtain ⟨strength, p, rfl, -⟩ := hmade.given c hc
    exact h strength p

theorem Expr.height_binary_le {operator : Operator} {a b : Expr} {s : Span} {n : Nat}
    (ha : a.height ≤ n) (hb : b.height ≤ n) : (Expr.binary operator a b s).height ≤ n + 1 :=
  Nat.succ_le_succ (Nat.max_le.2 ⟨ha, hb⟩)

/-- Behind a skipped level the loop over the operators ends. -/
theorem operations_of_tooDeep (levels strength : Nat) (left : Expr) (r : Reader) :
    operations levels strength left (tooDeep r).2 = (left, (tooDeep r).2) :=
  operations_of_levelEnd levels strength left (tooDeep_tokens r)

/-- An operator takes a level where there is one, and where there is none it is the last. -/
theorem operations_next (levels : Nat) {strength : Nat} (left : Expr) {r : Reader} {b : Binding}
    (h : r.kind.binding? = some b) (hb : ¬ b.left < strength) :
    operations levels strength left r =
      operations (levels - 1) strength
        (.binary b.operator left (expression (levels - 1) b.right r.advance).1
          (left.span.merge (expression (levels - 1) b.right r.advance).1.span))
        (expression (levels - 1) b.right r.advance).2 := by
  cases levels with
  | zero =>
    have hdeep : expression 0 b.right r.advance = tooDeep r.advance := rfl
    rw [operations_zero left h hb, Nat.zero_sub, hdeep, operations_of_tooDeep]
  | succ levels => exact operations_succ levels left h hb

mutual

/-- The height of what is read depends on the levels alone. -/
theorem expression_height : ∀ (levels strength : Nat) (r : Reader),
    (expression levels strength r).1.height ≤ mostHeight levels
  | 0, _, r => Nat.le_of_eq (tooDeep_height r)
  | levels + 1, strength, r =>
    operations_height levels strength (Nat.le_succ _)
      (operand_height (leads_expression levels) (fun s r => expression_height levels s r) r)

theorem operations_height : ∀ (m strength : Nat) {n : Nat} {left : Expr} {r : Reader},
    mostHeight m ≤ n → left.height ≤ n → (operations m strength left r).1.height ≤ n + max 1 m
  | m, strength, n, left, r, hn, hleft => by
    rcases hb : r.kind.binding? with _ | b
    · rw [operations_of_none m left hb]
      exact Nat.le_add_right_of_le hleft
    by_cases hlt : b.left < strength
    · rw [operations_of_lt m left hb hlt]
      exact Nat.le_add_right_of_le hleft
    match m with
    | 0 =>
      rw [operations_zero left hb hlt]
      exact Expr.height_binary_le hleft hn
    | 1 =>
      -- the right operand has no level left, and behind it there is no operator
      rw [operations_succ 0 left hb hlt]
      have hdeep : expression 0 b.right r.advance = tooDeep r.advance := rfl
      rw [hdeep, operations_of_tooDeep]
      exact Expr.height_binary_le hleft (Nat.le_trans (mostHeight_mono 0) hn)
    | m + 2 =>
      rw [operations_succ (m + 1) left hb hlt]
      have hright := Nat.le_trans (expression_height (m + 1) b.right r.advance)
        (Nat.le_trans (mostHeight_mono (m + 1)) hn)
      have hnode := Nat.le_trans (Nat.le_trans (mostHeight_mono (m + 1)) hn) (Nat.le_succ n)
      refine Nat.le_trans
        (operations_height (m + 1) strength hnode (Expr.height_binary_le hleft hright)) ?_
      omega

end

/-- The height of a tree is bounded, whatever text it is read from. -/
theorem parse_root_height (source : String) :
    (parse source).root.height ≤ nestingLimit * (nestingLimit + 2) / 2 := by
  refine Nat.le_trans ?_ (mostHeight_le (by decide : 4 ≤ nestingLimit))
  by_cases hnil : Token.lex source = []
  · rw [parse_root_of_nil hnil]
    exact mostHeight_pos nestingLimit
  · rw [parse_of_ne_nil hnil]
    exact expression_height nestingLimit 0 _

end EventSheet
