import EventSheet.Proofs.Syntax.Parts

/-!
# Trees further on in a text

A tree is moved when each of its spans is moved by as many bytes. A derivation is moved with its
tokens, and neither its layer nor the levels it takes to read depend on where it stands, so that the
tree of a moved derivation is the moved tree: `Concrete.expr_shift`.
-/

namespace EventSheet

/-! ### Spans -/

@[simp] theorem Span.shift_merge (k : Nat) (s t : Span) :
    (s.merge t).shift k = (s.shift k).merge (t.shift k) := by
  simp only [shift, merge, Nat.add_min_add_right, Nat.add_max_add_right]

@[simp] theorem Token.kind_shift (k : Nat) (t : Token) : (t.shift k).kind = t.kind := rfl

@[simp] theorem Token.text_shift (k : Nat) (t : Token) : (t.shift k).text = t.text := rfl

@[simp] theorem Token.span_shift (k : Nat) (t : Token) : (t.shift k).span = t.span.shift k := rfl

/-! ### Expressions -/

/-- The name as many bytes further on. -/
def Name.shift (k : Nat) (n : Name) : Name := ⟨n.text, n.span.shift k⟩

/-- The callee as many bytes further on. -/
def Callee.shift (k : Nat) : Callee → Callee
  | free f => free (f.shift k)
  | onObject o f => onObject (o.shift k) (f.shift k)
  | onBehavior o b f => onBehavior (o.shift k) (b.shift k) (f.shift k)

@[simp] theorem Callee.start_shift (k : Nat) (callee : Callee) :
    (callee.shift k).start = callee.start + k := by
  cases callee <;> rfl

mutual

/-- The tree as many bytes further on. -/
def Expr.shift (k : Nat) : Expr → Expr
  | .number text s => .number text (s.shift k)
  | .string value s => .string value (s.shift k)
  | .identifier name s => .identifier name (s.shift k)
  | .access name as s => .access (name.shift k) (shiftAccessors k as) (s.shift k)
  | .unary sign e s => .unary sign (e.shift k) (s.shift k)
  | .binary operator a b s => .binary operator (a.shift k) (b.shift k) (s.shift k)
  | .call callee es s => .call (callee.shift k) (shiftArguments k es) (s.shift k)
  | .empty s => .empty (s.shift k)
  | .error reason text s => .error reason text (s.shift k)

/-- The arguments of a call as many bytes further on. -/
def shiftArguments (k : Nat) : List Expr → List Expr
  | [] => []
  | e :: es => e.shift k :: shiftArguments k es

/-- The accessors of a variable as many bytes further on. -/
def shiftAccessors (k : Nat) : List Accessor → List Accessor
  | [] => []
  | .child name s :: as => .child name (s.shift k) :: shiftAccessors k as
  | .index e s :: as => .index (e.shift k) (s.shift k) :: shiftAccessors k as

end

@[simp] theorem Expr.span_shift (k : Nat) (e : Expr) : (e.shift k).span = e.span.shift k := by
  cases e <;> simp only [shift, span]

@[simp] theorem Expr.shift_withSpan (k : Nat) (s : Span) (e : Expr) :
    (e.withSpan s).shift k = (e.shift k).withSpan (s.shift k) := by
  cases e <;> simp only [shift, withSpan]

/-! ### Derivations -/

/-- The tokens of a callee as many bytes further on. -/
def Head.shift (k : Nat) : Head → Head
  | free f => free (f.shift k)
  | onObject o d f => onObject (o.shift k) (d.shift k) (f.shift k)
  | onBehavior o d b c f =>
    onBehavior (o.shift k) (d.shift k) (b.shift k) (c.shift k) (f.shift k)

@[simp] theorem Head.tokens_shift (k : Nat) (head : Head) :
    (head.shift k).tokens = head.tokens.map (Token.shift k) := by
  cases head <;> rfl

@[simp] theorem Head.spelled_shift (k : Nat) (head : Head) :
    (head.shift k).Spelled ↔ head.Spelled := by
  cases head <;> exact Iff.rfl

@[simp] theorem Head.callee_shift (k : Nat) (head : Head) :
    (head.shift k).callee = head.callee.shift k := by
  cases head <;> rfl

mutual

/-- The derivation as many bytes further on. -/
def Concrete.shift (k : Nat) : Concrete → Concrete
  | .number t => .number (t.shift k)
  | .string t => .string (t.shift k)
  | .name t => .name (t.shift k)
  | .group o e u => .group (o.shift k) (e.shift k) (u.shift k)
  | .signed s t e => .signed s (t.shift k) (e.shift k)
  | .operation o t a b => .operation o (t.shift k) (a.shift k) (b.shift k)
  | .call head o u => .call (head.shift k) (o.shift k) (u.shift k)
  | .callWith head o e es u =>
    .callWith (head.shift k) (o.shift k) (e.shift k) (es.shift k) (u.shift k)
  | .access n as => .access (n.shift k) (as.shift k)

/-- The arguments of a derivation as many bytes further on. -/
def Arguments.shift (k : Nat) : Arguments → Arguments
  | .nil => .nil
  | .cons m e es => .cons (m.shift k) (e.shift k) (es.shift k)

/-- The accessors of a derivation as many bytes further on. -/
def Accessors.shift (k : Nat) : Accessors → Accessors
  | .nil => .nil
  | .child d n as => .child (d.shift k) (n.shift k) (as.shift k)
  | .index o e u as => .index (o.shift k) (e.shift k) (u.shift k) (as.shift k)

end

section

variable (k : Nat)

mutual

@[simp] theorem Concrete.tokens_shift :
    ∀ c : Concrete, (c.shift k).tokens = c.tokens.map (Token.shift k)
  | .number _ | .string _ | .name _ => rfl
  | .group _ e _ | .signed _ _ e => by simp [Concrete.shift, Concrete.tokens, e.tokens_shift]
  | .operation _ _ a b => by
    simp [Concrete.shift, Concrete.tokens, a.tokens_shift, b.tokens_shift]
  | .call _ _ _ => by simp [Concrete.shift, Concrete.tokens]
  | .callWith _ _ e es _ => by
    simp [Concrete.shift, Concrete.tokens, e.tokens_shift, es.tokens_shift]
  | .access _ as => by simp [Concrete.shift, Concrete.tokens, as.tokens_shift]

@[simp] theorem Arguments.tokens_shift :
    ∀ es : Arguments, (es.shift k).tokens = es.tokens.map (Token.shift k)
  | .nil => rfl
  | .cons _ e es => by simp [Arguments.shift, Arguments.tokens, e.tokens_shift, es.tokens_shift]

@[simp] theorem Accessors.tokens_shift :
    ∀ as : Accessors, (as.shift k).tokens = as.tokens.map (Token.shift k)
  | .nil => rfl
  | .child _ _ as => by simp [Accessors.shift, Accessors.tokens, as.tokens_shift]
  | .index _ e _ as => by
    simp [Accessors.shift, Accessors.tokens, e.tokens_shift, as.tokens_shift]

end

mutual

@[simp] theorem Concrete.in_shift : ∀ (c : Concrete) {l : Layer}, (c.shift k).In l ↔ c.In l
  | .number _, _ | .string _, _ | .name _, _ => by simp only [Concrete.shift, Concrete.In,
      Token.kind_shift]
  | .group _ e _, _ | .signed _ _ e, _ => by
    simp only [Concrete.shift, Concrete.In, Token.kind_shift, e.in_shift]
  | .operation _ _ a b, _ => by
    simp only [Concrete.shift, Concrete.In, Token.kind_shift, a.in_shift, b.in_shift]
  | .call head _ _, _ => by
    simp only [Concrete.shift, Concrete.In, Token.kind_shift, head.spelled_shift]
  | .callWith head _ e es _, _ => by
    simp only [Concrete.shift, Concrete.In, Token.kind_shift, head.spelled_shift, e.in_shift,
      es.inSum_shift]
  | .access _ as, _ => by
    have hnil : as.shift k = .nil ↔ as = .nil := by
      cases as <;> simp [Accessors.shift]
    simp only [Concrete.shift, Concrete.In, Token.kind_shift, as.inSum_shift, ne_eq, hnil]

@[simp] theorem Arguments.inSum_shift : ∀ es : Arguments, (es.shift k).InSum ↔ es.InSum
  | .nil => Iff.rfl
  | .cons _ e es => by
    simp only [Arguments.shift, Arguments.InSum, Token.kind_shift, e.in_shift, es.inSum_shift]

@[simp] theorem Accessors.inSum_shift : ∀ as : Accessors, (as.shift k).InSum ↔ as.InSum
  | .nil => Iff.rfl
  | .child _ _ as => by
    simp only [Accessors.shift, Accessors.InSum, Token.kind_shift, as.inSum_shift]
  | .index _ e _ as => by
    simp only [Accessors.shift, Accessors.InSum, Token.kind_shift, e.in_shift, as.inSum_shift]

end

@[simp] theorem Concrete.chain_shift : ∀ c : Concrete, (c.shift k).chain = c.chain
  | .operation _ _ a _ => by rw [Concrete.shift, Concrete.chain, Concrete.chain, a.chain_shift]
  | .number _ | .string _ | .name _ | .group _ _ _ | .signed _ _ _ | .call _ _ _
  | .callWith _ _ _ _ _ | .access _ _ => rfl

mutual

/-- How many levels a tree takes to read does not depend on where it stands. -/
@[simp] theorem Concrete.demand_shift : ∀ c : Concrete, (c.shift k).demand = c.demand
  | .number _ | .string _ | .name _ | .call _ _ _ => rfl
  | .group _ e _ | .signed _ _ e => by simp only [Concrete.shift, Concrete.demand, e.demand_shift]
  | .operation _ _ a b => by
    simp only [Concrete.shift, Concrete.demand, a.demand_shift, b.demand_shift, a.chain_shift]
  | .callWith _ _ e es _ => by
    simp only [Concrete.shift, Concrete.demand, e.demand_shift, es.demand_shift]
  | .access _ as => by simp only [Concrete.shift, Concrete.demand, as.demand_shift]

@[simp] theorem Arguments.demand_shift : ∀ es : Arguments, (es.shift k).demand = es.demand
  | .nil => rfl
  | .cons _ e es => by
    simp only [Arguments.shift, Arguments.demand, e.demand_shift, es.demand_shift]

@[simp] theorem Accessors.demand_shift : ∀ as : Accessors, (as.shift k).demand = as.demand
  | .nil => rfl
  | .child _ _ as => by simp only [Accessors.shift, Accessors.demand, as.demand_shift]
  | .index _ e _ as => by
    simp only [Accessors.shift, Accessors.demand, e.demand_shift, as.demand_shift]

end

theorem Accessors.stop_shift (stop : Nat) :
    ∀ as : Accessors, (as.shift k).stop (stop + k) = as.stop stop + k
  | .nil => rfl
  | .child _ n as => as.stop_shift n.span.stop
  | .index _ _ u as => as.stop_shift u.span.stop

mutual

/-- The expression of a moved derivation is the moved expression. -/
@[simp] theorem Concrete.expr_shift : ∀ c : Concrete, (c.shift k).expr = c.expr.shift k
  | .number _ | .string _ | .name _ => by
    simp only [Concrete.shift, Concrete.expr, Expr.shift, Token.text_shift, Token.span_shift]
  | .group _ e _ => by
    simp only [Concrete.shift, Concrete.expr, e.expr_shift, Expr.shift_withSpan, Span.shift_merge,
      Token.span_shift]
  | .signed _ _ e => by
    simp only [Concrete.shift, Concrete.expr, Expr.shift, e.expr_shift, Expr.span_shift,
      Span.shift_merge, Token.span_shift]
  | .operation _ _ a b => by
    simp only [Concrete.shift, Concrete.expr, Expr.shift, a.expr_shift, b.expr_shift,
      Expr.span_shift, Span.shift_merge]
  | .call head _ u => by
    simp only [Concrete.shift, Concrete.expr, Expr.shift, shiftArguments, head.callee_shift,
      Callee.start_shift, Token.span_shift, Span.shift]
  | .callWith head _ e es u => by
    simp only [Concrete.shift, Concrete.expr, Expr.shift, shiftArguments, head.callee_shift,
      Callee.start_shift, Token.span_shift, Span.shift, e.expr_shift, es.exprs_shift]
  | .access n as => by
    have hstop := as.stop_shift k n.span.stop
    simp only [Concrete.shift, Concrete.expr, Expr.shift, as.steps_shift, Token.span_shift,
      Span.shift, hstop, Nat.add_max_add_right]
    rfl

theorem Arguments.exprs_shift : ∀ es : Arguments, (es.shift k).exprs = shiftArguments k es.exprs
  | .nil => by rw [Arguments.shift, Arguments.exprs, shiftArguments]
  | .cons _ e es => by
    simp only [Arguments.shift, Arguments.exprs, shiftArguments, e.expr_shift, es.exprs_shift]

theorem Accessors.steps_shift : ∀ as : Accessors, (as.shift k).steps = shiftAccessors k as.steps
  | .nil => by rw [Accessors.shift, Accessors.steps, shiftAccessors]
  | .child _ _ as => by
    simp only [Accessors.shift, Accessors.steps, shiftAccessors, as.steps_shift, Span.shift_merge,
      Token.span_shift, Token.text_shift]
  | .index _ e _ as => by
    simp only [Accessors.shift, Accessors.steps, shiftAccessors, e.expr_shift, as.steps_shift,
      Span.shift_merge, Token.span_shift]

end

end

end EventSheet
