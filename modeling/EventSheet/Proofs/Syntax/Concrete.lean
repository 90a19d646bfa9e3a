import EventSheet.Expr.Parser

/-!
# Concrete syntax trees

A concrete tree keeps every token of an expression, parentheses and commas included, so that it is a
derivation of its tokens. `Concrete.In` says from which layer of the grammar a tree derives: sums
and products nest to the left, powers to the right, a sign stands between the products and the
powers, and every layer holds all that the stronger ones hold. `Concrete.expr` is the expression
tree that is left when the tokens are forgotten.
-/

namespace EventSheet

/-- The layers of the grammar, from the weakest operators to the values that need none. -/
inductive Layer
  | sum
  | product
  | unary
  | power
  | primary
  deriving DecidableEq

/-- The place of a layer, counted from the weakest. -/
def Layer.rank : Layer → Nat
  | sum => 0
  | product => 1
  | unary => 2
  | power => 3
  | primary => 4

instance : LE Layer := ⟨fun l m => l.rank ≤ m.rank⟩

instance (l m : Layer) : Decidable (l ≤ m) := inferInstanceAs (Decidable (l.rank ≤ m.rank))

theorem Layer.le_refl (l : Layer) : l ≤ l := Nat.le_refl l.rank

theorem Layer.le_trans {l m n : Layer} (h : l ≤ m) (h' : m ≤ n) : l ≤ n := Nat.le_trans h h'

theorem Layer.sum_le (l : Layer) : Layer.sum ≤ l := Nat.zero_le l.rank

theorem Layer.le_primary (l : Layer) : l ≤ .primary := by
  cases l <;> decide

/-- The kind of token an operator is written with. -/
def Operator.kind : Operator → TokenKind
  | add => .plus
  | sub => .minus
  | mul => .star
  | div => .slash
  | pow => .caret

/-- The kind of token a sign is written with. -/
def Sign.kind : Sign → TokenKind
  | plus => .plus
  | minus => .minus

/-- The layer that the operations with an operator make. -/
def Operator.layer : Operator → Layer
  | add | sub => .sum
  | mul | div => .product
  | pow => .power

/-- The layer of the left operand. -/
def Operator.leftLayer : Operator → Layer
  | add | sub => .sum
  | mul | div => .product
  | pow => .primary

/-- The layer of the right operand. -/
def Operator.rightLayer : Operator → Layer
  | add | sub => .product
  | mul | div => .unary
  | pow => .unary

/-- An operator finds its left operand in the operations of another one exactly when the right
operand of those does not take it. -/
theorem Operator.leftLayer_le_iff {o p : Operator} :
    o.leftLayer ≤ p.layer ↔ ¬ p.rightLayer ≤ o.layer := by
  cases o <;> cases p <;> decide

theorem Operator.leftLayer_le_unary_iff {o : Operator} :
    o.leftLayer ≤ .unary ↔ ¬ Layer.unary ≤ o.layer := by
  cases o <;> decide

theorem Operator.leftLayer_le_rightLayer {o p : Operator} (h : o.leftLayer ≤ p.layer) :
    o.leftLayer ≤ p.rightLayer := by
  revert h
  cases o <;> cases p <;> decide

theorem Operator.layer_le_leftLayer (o : Operator) : o.layer ≤ o.leftLayer := by
  cases o <;> decide

theorem Operator.rightLayer_le_unary (o : Operator) : o.rightLayer ≤ .unary := by
  cases o <;> decide

theorem Operator.kind_injective {o p : Operator} (h : o.kind = p.kind) : o = p := by
  revert h
  cases o <;> cases p <;> decide

theorem Sign.kind_injective {s t : Sign} (h : s.kind = t.kind) : s = t := by
  revert h
  cases s <;> cases t <;> decide

/-- What a call is made on, with all its tokens. -/
inductive Head
  | free (function : Token)
  | onObject (object dot function : Token)
  | onBehavior (object dot behavior colons function : Token)

namespace Head

def tokens : Head → List Token
  | free f => [f]
  | onObject o d f => [o, d, f]
  | onBehavior o d b c f => [o, d, b, c, f]

/-- Whether every token of a head is of the kind its place asks for. -/
def Spelled : Head → Prop
  | free f => f.kind = .ident
  | onObject o d f => o.kind = .ident ∧ d.kind = .dot ∧ f.kind = .ident
  | onBehavior o d b c f =>
    o.kind = .ident ∧ d.kind = .dot ∧ b.kind = .ident ∧ c.kind = .colonColon ∧ f.kind = .ident

def callee : Head → Callee
  | free f => .free (Name.ofToken f)
  | onObject o _ f => .onObject (Name.ofToken o) (Name.ofToken f)
  | onBehavior o _ b _ f => .onBehavior (Name.ofToken o) (Name.ofToken b) (Name.ofToken f)

end Head

mutual

/-- An expression with all its tokens. -/
inductive Concrete
  | number (t : Token)
  | string (t : Token)
  | name (t : Token)
  | group (opening : Token) (inner : Concrete) (closing : Token)
  | signed (sign : Sign) (t : Token) (operand : Concrete)
  | operation (operator : Operator) (t : Token) (left right : Concrete)
  /-- A call without arguments. -/
  | call (head : Head) (opening closing : Token)
  | callWith (head : Head) (opening : Token) (first : Concrete) (rest : Arguments)
      (closing : Token)
  | access (name : Token) (accessors : Accessors)

/-- The arguments of a call after the first one. -/
inductive Arguments
  | nil
  | cons (comma : Token) (argument : Concrete) (rest : Arguments)

/-- The accessors of a variable. -/
inductive Accessors
  | nil
  | child (dot name : Token) (rest : Accessors)
  | index (opening : Token) (index : Concrete) (closing : Token) (rest : Accessors)

end

/-! ### The tokens of a tree -/

mutual

/-- The tokens of a tree in the order in which they are written. -/
def Concrete.tokens : Concrete → List Token
  | .number t => [t]
  | .string t => [t]
  | .name t => [t]
  | .group opening inner closing => opening :: (inner.tokens ++ [closing])
  | .signed _ t operand => t :: operand.tokens
  | .operation _ t left right => left.tokens ++ t :: right.tokens
  | .call head opening closing => head.tokens ++ [opening, closing]
  | .callWith head opening first rest closing =>
    head.tokens ++ opening :: (first.tokens ++ (rest.tokens ++ [closing]))
  | .access name accessors => name :: accessors.tokens

def Arguments.tokens : Arguments → List Token
  | .nil => []
  | .cons comma argument rest => comma :: (argument.tokens ++ rest.tokens)

def Accessors.tokens : Accessors → List Token
  | .nil => []
  | .child dot name rest => dot :: name :: rest.tokens
  | .index opening index closing rest => opening :: (index.tokens ++ closing :: rest.tokens)

end

/-! ### Layers -/

mutual

/-- Whether a tree derives from a layer of the grammar. -/
def Concrete.In : Concrete → Layer → Prop
  | .number t, _ => t.kind = .number
  | .string t, _ => t.kind = .string
  | .name t, _ => t.kind = .ident
  | .group opening inner closing, _ =>
    opening.kind = .openParen ∧ inner.In .sum ∧ closing.kind = .closeParen
  | .signed sign t operand, l => l ≤ .unary ∧ t.kind = sign.kind ∧ operand.In .unary
  | .operation operator t left right, l =>
    l ≤ operator.layer ∧ t.kind = operator.kind ∧
      left.In operator.leftLayer ∧ right.In operator.rightLayer
  | .call head opening closing, _ =>
    head.Spelled ∧ opening.kind = .openParen ∧ closing.kind = .closeParen
  | .callWith head opening first rest closing, _ =>
    head.Spelled ∧ opening.kind = .openParen ∧ first.In .sum ∧ rest.InSum ∧
      closing.kind = .closeParen
  | .access name accessors, _ => name.kind = .ident ∧ accessors ≠ .nil ∧ accessors.InSum

/-- Whether every argument follows a comma and is an expression. -/
def Arguments.InSum : Arguments → Prop
  | .nil => True
  | .cons comma argument rest => comma.kind = .comma ∧ argument.In .sum ∧ rest.InSum

/-- Whether every accessor is well formed and every index is an expression. -/
def Accessors.InSum : Accessors → Prop
  | .nil => True
  | .child dot name rest => dot.kind = .dot ∧ name.kind = .ident ∧ rest.InSum
  | .index opening index closing rest =>
    opening.kind = .openBracket ∧ index.In .sum ∧ closing.kind = .closeBracket ∧ rest.InSum

end

/-- A layer holds all that the layers above it hold. -/
theorem Concrete.In.mono {c : Concrete} {l m : Layer} (h : c.In m) (hl : l ≤ m) : c.In l := by
  cases c with
  | signed s t e =>
    rw [Concrete.In] at h ⊢
    exact ⟨Layer.le_trans hl h.1, h.2⟩
  | operation o t a b =>
    rw [Concrete.In] at h ⊢
    exact ⟨Layer.le_trans hl h.1, h.2⟩
  | _ => simpa only [Concrete.In] using h

theorem Concrete.In.sum {c : Concrete} {l : Layer} (h : c.In l) : c.In .sum :=
  h.mono (Layer.sum_le l)

/-! ### What follows a tree -/

/-- Whether no token of an expression comes next but an operator. -/
def Closed : List Token → Prop
  | [] => True
  | t :: _ => t.kind.isBoundary = true ∨ t.kind.isOperator = true

/-- Whether an operator that comes next is not one of the layer or above. -/
def Layer.Stops (l : Layer) : List Token → Prop
  | [] => True
  | t :: _ => ∀ o : Operator, t.kind = o.kind → ¬ l ≤ o.layer

/-- Whether the tree is a left operand of an operator that comes next. -/
def Concrete.Admits (c : Concrete) : List Token → Prop
  | [] => True
  | t :: _ => ∀ o : Operator, t.kind = o.kind → c.In o.leftLayer

/-- Whether the tree can be all that is read before the tokens that come next. -/
def Concrete.Follows (c : Concrete) (ts : List Token) : Prop := Closed ts ∧ c.Admits ts

theorem Operator.isBoundary_kind (o : Operator) : o.kind.isBoundary = false := by
  cases o <;> rfl

theorem Operator.isOperator_kind (o : Operator) : o.kind.isOperator = true := by
  cases o <;> rfl

/-- Before the end of a level every tree ends. -/
theorem Concrete.follows_boundary (c : Concrete) {t : Token} (ht : t.kind.isBoundary = true)
    (ts : List Token) : c.Follows (t :: ts) := by
  refine ⟨.inl ht, fun o ho => ?_⟩
  rw [ho, o.isBoundary_kind] at ht
  exact absurd ht (by decide)

theorem Layer.stops_boundary (l : Layer) {t : Token} (ht : t.kind.isBoundary = true)
    (ts : List Token) : l.Stops (t :: ts) := by
  intro o ho
  rw [ho, o.isBoundary_kind] at ht
  exact absurd ht (by decide)

/-- The left operand of an operation ends before its operator. -/
theorem Concrete.In.follows_operator {c : Concrete} {o : Operator} (h : c.In o.leftLayer)
    {t : Token} (ht : t.kind = o.kind) (ts : List Token) : c.Follows (t :: ts) := by
  refine ⟨.inr (ht ▸ o.isOperator_kind), fun p hp => ?_⟩
  obtain rfl := Operator.kind_injective (ht.symm.trans hp)
  exact h

/-- Where an operation ends, its right operand ends and takes no operator any more. -/
theorem Concrete.Follows.right {o : Operator} {t : Token} {a b : Concrete} {ts : List Token}
    (h : (Concrete.operation o t a b).Follows ts) (hb : b.In o.rightLayer) :
    b.Follows ts ∧ o.rightLayer.Stops ts := by
  obtain ⟨hc, ha⟩ := h
  cases ts with
  | nil => exact ⟨⟨hc, trivial⟩, trivial⟩
  | cons u us =>
    have hle : ∀ p : Operator, u.kind = p.kind → p.leftLayer ≤ o.layer := by
      intro p hp
      have hin := ha p hp
      rw [Concrete.In] at hin
      exact hin.1
    refine ⟨⟨hc, fun p hp => ?_⟩, fun p hp => ?_⟩
    · exact hb.mono (Operator.leftLayer_le_rightLayer (hle p hp))
    · exact Operator.leftLayer_le_iff.1 (hle p hp)

/-- Where a signed operand ends, what the sign stands before ends and takes no operator any more. -/
theorem Concrete.Follows.operand {s : Sign} {t : Token} {e : Concrete} {ts : List Token}
    (h : (Concrete.signed s t e).Follows ts) (he : e.In .unary) :
    e.Follows ts ∧ Layer.unary.Stops ts := by
  obtain ⟨hc, ha⟩ := h
  cases ts with
  | nil => exact ⟨⟨hc, trivial⟩, trivial⟩
  | cons u us =>
    have hle : ∀ p : Operator, u.kind = p.kind → p.leftLayer ≤ .unary := by
      intro p hp
      have hin := ha p hp
      rw [Concrete.In] at hin
      exact hin.1
    refine ⟨⟨hc, fun p hp => ?_⟩, fun p hp => ?_⟩
    · exact he.mono (hle p hp)
    · exact Operator.leftLayer_le_unary_iff.1 (hle p hp)

/-- Every operator takes a value on its left. -/
theorem Concrete.In.admits {c : Concrete} (h : c.In .primary) (ts : List Token) : c.Admits ts := by
  cases ts with
  | nil => trivial
  | cons t ts => exact fun o _ => h.mono o.leftLayer.le_primary

/-- Where nothing more belongs to the operand of a sign, the signed operand is what the next
operator takes. -/
theorem Concrete.In.admits_signed {s : Sign} {t : Token} {e : Concrete} {ts : List Token}
    (he : e.In .unary) (ht : t.kind = s.kind) (hs : Layer.unary.Stops ts) :
    (Concrete.signed s t e).Admits ts := by
  cases ts with
  | nil => trivial
  | cons u us =>
    intro o ho
    rw [Concrete.In]
    exact ⟨Operator.leftLayer_le_unary_iff.2 (hs o ho), ht, he⟩

/-- Where nothing more belongs to the right operand, the operation is what the next operator takes.
-/
theorem Concrete.In.admits_operation {o : Operator} {t : Token} {a b : Concrete} {ts : List Token}
    (ha : a.In o.leftLayer) (hb : b.In o.rightLayer) (ht : t.kind = o.kind)
    (hs : o.rightLayer.Stops ts) : (Concrete.operation o t a b).Admits ts := by
  cases ts with
  | nil => trivial
  | cons u us =>
    intro p hp
    rw [Concrete.In]
    exact ⟨Operator.leftLayer_le_iff.2 (hs p hp), ht, ha, hb⟩

/-! ### The expression of a tree -/

/-- Where the last of some accessors stops, after a name that stops at `stop`. -/
def Accessors.stop (stop : Nat) : Accessors → Nat
  | .nil => stop
  | .child _ name rest => rest.stop name.span.stop
  | .index _ _ closing rest => rest.stop closing.span.stop

mutual

/-- The expression that a tree stands for. A group is what it holds, widened to its parentheses. -/
def Concrete.expr : Concrete → Expr
  | .number t => .number t.text t.span
  | .string t => .string (decodeText t.text) t.span
  | .name t => .identifier t.text t.span
  | .group opening inner closing => inner.expr.withSpan (opening.span.merge closing.span)
  | .signed sign t operand => .unary sign operand.expr (t.span.merge operand.expr.span)
  | .operation operator _ left right =>
    .binary operator left.expr right.expr (left.expr.span.merge right.expr.span)
  | .call head _ closing => .call head.callee [] ⟨head.callee.start, closing.span.stop⟩
  | .callWith head _ first rest closing =>
    .call head.callee (first.expr :: rest.exprs) ⟨head.callee.start, closing.span.stop⟩
  | .access name accessors =>
    .access (Name.ofToken name) accessors.steps
      ⟨name.span.start, max (accessors.stop name.span.stop) name.span.stop⟩

def Arguments.exprs : Arguments → List Expr
  | .nil => []
  | .cons _ argument rest => argument.expr :: rest.exprs

def Accessors.steps : Accessors → List Accessor
  | .nil => []
  | .child dot name rest => .child name.text (dot.span.merge name.span) :: rest.steps
  | .index opening index closing rest =>
    .index index.expr (opening.span.merge closing.span) :: rest.steps

end

end EventSheet
