import EventSheet.Proofs.Reading.Nesting
import EventSheet.Proofs.Reading.Operands

/-!
# How deep a tree can be

The levels that are left are counted along the way on which a text is read, and not along the ways
down the tree that comes of it. An operator takes a level from what comes after it and none from its
left operand, which was read before. So the limit bounds the ways down a tree without the steps to
left operands, and with each step to a right operand counted twice; with all steps, a way can have
as many as the operators of one chain at every level allow.
-/

namespace EventSheet

/-! ### Ways down a tree -/

/-- How a node stands below another one. -/
inductive Level
  | operand
  | left
  | right
  | argument
  | index
  deriving DecidableEq

/-- The nodes that stand directly below a node in the given manner. -/
def Expr.childrenAt : Expr → Level → List Expr
  | .unary _ e _, .operand => [e]
  | .binary _ a _ _, .left => [a]
  | .binary _ _ b _, .right => [b]
  | .call _ es _, .argument => es
  | .access _ as _, .index => indices as
  | _, _ => []

theorem Expr.mem_children_of_childrenAt {c e : Expr} {l : Level} (h : c ∈ e.childrenAt l) :
    c ∈ e.children := by
  cases e <;> cases l <;> simp_all [childrenAt, children]

/-- Only the operands of an operator stand to its left and to its right. -/
theorem Expr.not_side_of_childrenAt {c e : Expr} {l : Level} (he : e.isOperation = false)
    (h : c ∈ e.childrenAt l) : l ≠ .left ∧ l ≠ .right := by
  cases e <;> cases l <;> simp_all [childrenAt, isOperation]

@[simp] theorem Expr.childrenAt_withSpan (s : Span) (e : Expr) (l : Level) :
    (e.withSpan s).childrenAt l = e.childrenAt l := by
  cases e <;> cases l <;> rfl

/-- The levels that are passed on a way down a tree. -/
inductive Expr.Way : Expr → List Level → Prop
  | here {e : Expr} : Expr.Way e []
  | down {e c : Expr} {l : Level} {ls : List Level} :
      c ∈ e.childrenAt l → Expr.Way c ls → Expr.Way e (l :: ls)

theorem Expr.Way.of_withSpan {s : Span} {e : Expr} {ls : List Level} (h : (e.withSpan s).Way ls) :
    e.Way ls := by
  cases h with
  | here => exact .here
  | down hc hls => exact .down (childrenAt_withSpan s e _ ▸ hc) hls

/-! ### What reading with a number of levels can give -/

/-- The most levels on a way down a tree that is read with `n` levels. -/
def mostLevels : Nat → Nat
  | 0 => 0
  | n + 1 => mostLevels n + n

theorem mostLevels_eq (n : Nat) : mostLevels n = n * (n - 1) / 2 := by
  have htwice : 2 * mostLevels n = n * (n - 1) := by
    induction n with
    | zero => rfl
    | succ n ih =>
      rw [mostLevels, Nat.mul_add, ih]
      cases n <;> grind
  omega

theorem mostLevels_mono {m n : Nat} (h : m ≤ n) : mostLevels m ≤ mostLevels n := by
  induction h with
  | refl => exact Nat.le_refl _
  | step _ ih => exact Nat.le_trans ih (Nat.le_add_right _ _)

/-- The ways down the tree are no longer than reading with the given levels allows. -/
def Expr.Within (levels : Nat) (e : Expr) : Prop :=
  ∀ ls, e.Way ls →
    ls.length + ls.count .right < levels + ls.count .left ∧ ls.length ≤ mostLevels levels

/-- The same where the loop over the operators stands behind an operand read with the given levels,
when the loop has `m` of them left. -/
def Expr.WithinChain (levels m : Nat) (e : Expr) : Prop :=
  ∀ ls, e.Way ls →
    ls.length + ls.count .right < levels + 1 + ls.count .left ∧
      (ls = [] ∨ 1 ≤ m ∧ ls.length + m ≤ mostLevels levels + levels + 1)

section Bounds

variable {levels m : Nat} {e : Expr}

theorem Expr.Within.pos (h : e.Within levels) : 0 < levels := (h [] .here).1

/-- The last operator leaves a level, or there was none. -/
theorem Expr.WithinChain.within (h : e.WithinChain levels m) : e.Within (levels + 1) := by
  intro ls hls
  obtain ⟨hcost, hlength⟩ := h ls hls
  refine ⟨hcost, ?_⟩
  rw [mostLevels]
  rcases hlength with rfl | hlength
  · exact Nat.zero_le _
  · omega

/-- What a group holds is read with one level less and stands where the group stands. -/
theorem Expr.Within.group {s : Span} (h : e.Within levels) :
    (e.withSpan s).WithinChain levels levels := by
  intro ls hls
  have hpos := h.pos
  obtain ⟨hcost, hlength⟩ := h ls hls.of_withSpan
  exact ⟨by omega, .inr ⟨hpos, by omega⟩⟩

/-- What stands below a value is read with one level less. -/
theorem Expr.WithinChain.value (he : e.isOperation = false)
    (h : ∀ c ∈ e.children, Expr.Within levels c) : e.WithinChain levels levels := by
  intro ls hls
  cases hls with
  | here => exact ⟨Nat.succ_pos _, .inl rfl⟩
  | @down _ c l ls hc hls =>
    obtain ⟨hleft, hright⟩ := not_side_of_childrenAt he hc
    have hwithin := h c (mem_children_of_childrenAt hc)
    have hpos := hwithin.pos
    obtain ⟨hcost, hlength⟩ := hwithin ls hls
    rw [List.count_cons_of_ne hleft, List.count_cons_of_ne hright, List.length_cons]
    exact ⟨by omega, .inr ⟨hpos, by omega⟩⟩

/-- An operator takes one level from the loop and two from its right operand. -/
theorem Expr.WithinChain.operation {operator : Operator} {a b : Expr} {s : Span}
    (ha : a.WithinChain levels (m + 1)) (hm : m < levels) (hb : b.Within m) :
    (Expr.binary operator a b s).WithinChain levels m := by
  have hpos := hb.pos
  intro ls hls
  cases hls with
  | here => exact ⟨Nat.succ_pos _, .inl rfl⟩
  | @down _ c l ls hc hls =>
    cases l with
    | left =>
      obtain rfl := List.mem_singleton.1 hc
      obtain ⟨hcost, hlength⟩ := ha ls hls
      rw [List.count_cons_self, List.count_cons_of_ne (by decide), List.length_cons]
      refine ⟨by omega, .inr ⟨hpos, ?_⟩⟩
      rcases hlength with rfl | hlength
      · simp only [List.length_nil]
        omega
      · omega
    | right =>
      obtain rfl := List.mem_singleton.1 hc
      obtain ⟨hcost, hlength⟩ := hb ls hls
      have hmono : mostLevels (m + 1) ≤ mostLevels levels := mostLevels_mono hm
      rw [mostLevels] at hmono
      rw [List.count_cons_self, List.count_cons_of_ne (by decide), List.length_cons]
      exact ⟨by omega, .inr ⟨hpos, by omega⟩⟩
    | operand | argument | index => exact absurd hc List.not_mem_nil

end Bounds

/-- An operand stands within the levels when what the reader gave on the way does. -/
theorem operand_within {levels : Nat} {inner : ExprReader} (hi : inner.Leads)
    (hwithin : ∀ s r, (inner s r).2.Shallow → (inner s r).1.Within levels) {r : Reader}
    (hr : (operand inner r).2.Shallow) : (operand inner r).1.WithinChain levels levels := by
  have hgiven : ∀ c, inner.Gives (operand inner r).2 c → c.Within levels := by
    rintro c ⟨s, p, rfl, hp⟩
    exact hwithin s p (hp.shallow hr)
  rcases operand_made hi r with ⟨c, s, heq, hc⟩ | hmade
  · rw [heq]
    exact (hgiven c hc).group
  · exact .value hmade.value fun c hc => hgiven c (hmade.given c hc)

mutual

/-- A tree that is read without reaching the limit stands within the levels it is read with. -/
theorem expression_within : ∀ (levels strength : Nat) (r : Reader),
    (expression levels strength r).2.Shallow → (expression levels strength r).1.Within levels
  | 0, _, _, h => absurd h (not_shallow_tooDeep _)
  | levels + 1, strength, _, h =>
    operations_within levels strength (Nat.le_refl levels)
      (operand_within (leads_expression levels) (fun s r h => expression_within levels s r h)
        ((operations_leads levels strength _ _).shallow h)) h

theorem operations_within : ∀ (m strength : Nat) {levels : Nat} {left : Expr} {r : Reader},
    m ≤ levels → left.WithinChain levels m → (operations m strength left r).2.Shallow →
      (operations m strength left r).1.Within (levels + 1)
  | m, strength, levels, left, r, hm, hleft, h => by
    rcases hb : r.kind.binding? with _ | b
    · rw [operations_of_none m left hb]
      exact hleft.within
    by_cases hlt : b.left < strength
    · rw [operations_of_lt m left hb hlt]
      exact hleft.within
    match m with
    | 0 =>
      rw [operations_zero left hb hlt] at h
      exact absurd h (not_shallow_tooDeep _)
    | m + 1 =>
      rw [operations_succ m left hb hlt] at h ⊢
      have hright := expression_within m b.right r.advance
        ((operations_leads m strength _ _).shallow h)
      exact operations_within m strength (Nat.le_of_succ_le hm) (hleft.operation hm hright) h

end

/-! ### Whole texts -/

theorem parse_root_of_nil {source : String} (h : Token.lex source = []) :
    (parse source).root = .empty (Reader.start source).span := by
  have hk : (Reader.start source).kind = .eof := Reader.kind_eq_eof h
  simp [parse, hk]

/-- Where the nesting limit is not reported, a way down the tree has fewer levels than the limit
when its steps to left operands are left out and its steps to right operands are counted twice. With
all its steps it has no more levels than the chains of operators at every level allow. -/
theorem parse_way_of_shallow {source : String} {ls : List Level}
    (h : ∀ d ∈ (parse source).diagnostics, d.code ≠ .nestingTooDeep)
    (hls : (parse source).root.Way ls) :
    ls.length + ls.count .right < nestingLimit + ls.count .left ∧
      ls.length ≤ nestingLimit * (nestingLimit - 1) / 2 := by
  rw [← mostLevels_eq]
  by_cases hnil : Token.lex source = []
  · rw [parse_root_of_nil hnil] at hls
    have hempty : (Expr.empty (Reader.start source).span).WithinChain 199 199 :=
      .value rfl fun c hc => absurd hc List.not_mem_nil
    exact hempty.within ls hls
  · rw [parse_of_ne_nil hnil] at h hls
    exact expression_within nestingLimit 0 _ ((closeText_leads _).shallow h) ls hls

theorem parse_way_of_shallow_signed_sum :
    (parse "-(1 + 2)").root.Way [.operand, .left] ∧
      [Level.operand, .left].length + [Level.operand, .left].count .right <
        nestingLimit + [Level.operand, .left].count .left ∧
      [Level.operand, .left].length ≤ nestingLimit * (nestingLimit - 1) / 2 := by
  have hroot : (parse "-(1 + 2)").root =
      .unary .minus (.binary .add (.number "1" ⟨2, 3⟩) (.number "2" ⟨6, 7⟩) ⟨1, 8⟩) ⟨0, 8⟩ := by
    with_unfolding_all rfl
  have hdiagnostics : (parse "-(1 + 2)").diagnostics = [] := by decide +kernel
  have hway : (parse "-(1 + 2)").root.Way [.operand, .left] := by
    rw [hroot]
    exact .down (.head _) (.down (.head _) .here)
  refine ⟨hway, parse_way_of_shallow ?_ hway⟩
  rw [hdiagnostics]
  exact nofun

/-! ### Signs before a sum -/

/-- A text of `n` summands more. -/
def Text.summands : Nat → List Char
  | 0 => []
  | n + 1 => '+' :: '1' :: Text.summands n

/-- A text of `m` signs before the first one of `n + 1` summands. -/
def Text.signedSum : Nat → Nat → List Char
  | 0, n => '1' :: Text.summands n
  | m + 1, n => '-' :: Text.signedSum m n

namespace Concrete

/-- A one at the given place. -/
def one (offset : Nat) : Concrete := .number ⟨.number, "1", ⟨offset, offset + 1⟩⟩

/-- A one with `m` signs before it. -/
def signedOne (offset : Nat) : Nat → Concrete
  | 0 => one offset
  | m + 1 => .signed .minus ⟨.minus, "-", ⟨offset, offset + 1⟩⟩ (signedOne (offset + 1) m)

/-- A tree with `n` summands added to it. -/
def plusOnes (left : Concrete) (offset : Nat) : Nat → Concrete
  | 0 => left
  | n + 1 =>
    plusOnes (.operation .add ⟨.plus, "+", ⟨offset, offset + 1⟩⟩ left (one (offset + 1)))
      (offset + 2) n

theorem signedOne_in (offset m : Nat) : (signedOne offset m).In .unary := by
  induction m generalizing offset with
  | zero => rw [signedOne, one, In]
  | succ m ih =>
    rw [signedOne, In]
    exact ⟨Layer.le_refl _, rfl, ih (offset + 1)⟩

theorem plusOnes_in {left : Concrete} (h : left.In .sum) (offset n : Nat) :
    (left.plusOnes offset n).In .sum := by
  induction n generalizing left offset with
  | zero => exact h
  | succ n ih =>
    refine ih ?_ (offset + 2)
    rw [In]
    exact ⟨Layer.le_refl _, rfl, h, by rw [one, In]⟩

theorem demand_signedOne (offset m : Nat) : (signedOne offset m).demand = m + 1 := by
  induction m generalizing offset with
  | zero => rw [signedOne, one, demand]
  | succ m ih => rw [signedOne, demand, ih]

theorem demand_plusOnes_le {left : Concrete} {levels : Nat} (h : left.demand ≤ levels)
    (offset n : Nat) (hchain : left.chain + n + 2 ≤ levels) :
    (left.plusOnes offset n).demand ≤ levels := by
  induction n generalizing left offset with
  | zero => exact h
  | succ n ih =>
    apply ih
    · simp only [demand, one]
      omega
    · rw [chain]
      omega

theorem way_signedOne (offset m : Nat) :
    (signedOne offset m).expr.Way (List.replicate m .operand) := by
  induction m generalizing offset with
  | zero => exact .here
  | succ m ih =>
    rw [signedOne, expr, List.replicate_succ]
    exact .down (.head _) (ih (offset + 1))

theorem way_plusOnes {left : Concrete} {ls : List Level} (h : left.expr.Way ls) (offset n : Nat) :
    (left.plusOnes offset n).expr.Way (List.replicate n .left ++ ls) := by
  induction n generalizing left ls offset with
  | zero => exact h
  | succ n ih =>
    have hstep : (operation .add ⟨.plus, "+", ⟨offset, offset + 1⟩⟩ left
        (one (offset + 1))).expr.Way (.left :: ls) := by
      rw [expr]
      exact .down (.head _) h
    rw [List.replicate_succ', List.append_assoc]
    exact ih hstep (offset + 2)

/-- The signs and the first summand with the other ones. -/
def signedSum (m n : Nat) : Concrete := (signedOne 0 m).plusOnes (m + 1) n

end Concrete

/-- The tokens of `n` summands more. -/
def Token.summands (offset : Nat) : Nat → List Token
  | 0 => []
  | n + 1 =>
    ⟨.plus, "+", ⟨offset, offset + 1⟩⟩ :: ⟨.number, "1", ⟨offset + 1, offset + 2⟩⟩ ::
      Token.summands (offset + 2) n

theorem Concrete.tokens_plusOnes (left : Concrete) (offset n : Nat) :
    (left.plusOnes offset n).tokens = left.tokens ++ Token.summands offset n := by
  induction n generalizing left offset with
  | zero => exact (List.append_nil _).symm
  | succ n ih =>
    rw [plusOnes, ih, tokens, one, tokens, List.append_assoc]
    rfl

theorem Token.lexFrom_one (offset n : Nat) :
    lexFrom offset ('1' :: Text.summands n) =
      ⟨.number, "1", ⟨offset, offset + 1⟩⟩ :: lexFrom (offset + 1) (Text.summands n) := by
  have hcut : Lexeme.first '1' (Text.summands n) = ⟨.number, ['1'], Text.summands n⟩ := by
    cases n <;> rfl
  rw [lexFrom_of_not_blank rfl, hcut]
  rfl

theorem Token.lexFrom_summands (offset n : Nat) :
    lexFrom offset (Text.summands n) = summands offset n := by
  induction n generalizing offset with
  | zero => rw [Text.summands, lexFrom, summands]
  | succ n ih =>
    rw [Text.summands, lexFrom_of_char rfl, lexFrom_one, ih]
    rfl

theorem Token.lexFrom_signedSum (offset m n : Nat) :
    lexFrom offset (Text.signedSum m n) =
      (Concrete.signedOne offset m).tokens ++ summands (offset + m + 1) n := by
  induction m generalizing offset with
  | zero =>
    rw [Text.signedSum, lexFrom_one, lexFrom_summands]
    rfl
  | succ m ih =>
    rw [Text.signedSum, lexFrom_of_char rfl, ih, Concrete.signedOne, Concrete.tokens,
      Nat.add_right_comm offset 1 m]
    rfl

/-- The signs take their levels before the sum takes its own, although they stand below it. -/
theorem parse_signedSum {m n : Nat} (hm : m < nestingLimit) (hn : n + 2 ≤ nestingLimit) :
    (∀ d ∈ (parse (String.ofList (Text.signedSum m n))).diagnostics,
      d.code ≠ .nestingTooDeep) ∧
    (parse (String.ofList (Text.signedSum m n))).root.Way
      (List.replicate n .left ++ List.replicate m .operand) := by
  have hin : (Concrete.signedSum m n).In .sum :=
    Concrete.plusOnes_in ((Concrete.signedOne_in 0 m).mono (Layer.sum_le _)) (m + 1) n
  have htok :
      (Concrete.signedSum m n).tokens = Token.lex (String.ofList (Text.signedSum m n)) := by
    rw [Token.lex, String.toList_ofList, Token.lexFrom_signedSum, Concrete.signedSum,
      Concrete.tokens_plusOnes, Nat.zero_add]
  have hchain : (Concrete.signedOne 0 m).chain = 0 := by
    cases m <;> rfl
  have hfits : (Concrete.signedSum m n).demand ≤ nestingLimit := by
    refine Concrete.demand_plusOnes_le ?_ (m + 1) n ?_
    · rw [Concrete.demand_signedOne]
      exact hm
    · rw [hchain, Nat.zero_add]
      exact hn
  refine ⟨(shallow_iff_of_concrete hin htok).2 hfits, ?_⟩
  rw [(parse_of_fitting hin htok hfits).2]
  exact Concrete.way_plusOnes (Concrete.way_signedOne 0 m) (m + 1) n

/-- A text can be accepted with more levels on a way down its tree than the limit. -/
theorem signedSum_too_deep : ¬ ∀ (source : String) (ls : List Level),
    (∀ d ∈ (parse source).diagnostics, d.code ≠ .nestingTooDeep) →
    (parse source).root.Way ls → ls.length ≤ nestingLimit := by
  intro h
  obtain ⟨hshallow, hway⟩ := parse_signedSum (m := 101) (n := 100) (by decide) (by decide)
  have hlength := h _ _ hshallow hway
  rw [List.length_append, List.length_replicate, List.length_replicate] at hlength
  exact absurd hlength (by decide)

end EventSheet
