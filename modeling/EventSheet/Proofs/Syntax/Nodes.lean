import EventSheet.Proofs.Syntax.Concrete

/-!
# The nodes of a tree

All expressions that a tree is made of, the indices of variables and the arguments of calls among
them. A tree that stands for a derivation is written throughout: nothing is missing in it and
nothing in it stands for a piece of text that could not be read.
-/

namespace EventSheet

mutual

/-- The nodes below a node, parents first. -/
def Expr.descendants : Expr → List Expr
  | .unary _ e _ => e :: e.descendants
  | .binary _ a b _ => a :: (a.descendants ++ b :: b.descendants)
  | .call _ es _ => argumentNodes es
  | .access _ as _ => accessorNodes as
  | _ => []

/-- The nodes of the arguments of a call. -/
def argumentNodes : List Expr → List Expr
  | [] => []
  | e :: es => e :: (e.descendants ++ argumentNodes es)

/-- The nodes of the indices in a chain of accessors. -/
def accessorNodes : List Accessor → List Expr
  | [] => []
  | .child _ _ :: as => accessorNodes as
  | .index e _ :: as => e :: (e.descendants ++ accessorNodes as)

end

/-- The nodes of a tree, its root first. -/
def Expr.nodes (e : Expr) : List Expr := e :: e.descendants

/-- The indices in a chain of accessors. -/
def indices : List Accessor → List Expr
  | [] => []
  | .child _ _ :: as => indices as
  | .index e _ :: as => e :: indices as

/-- Induction over a tree: what holds of the leaves, and of a node whenever it holds of the
operands, arguments and indices of the node, holds of every tree. -/
@[elab_as_elim, induction_eliminator]
theorem Expr.induction {motive : Expr → Prop} (number : ∀ text s, motive (.number text s))
    (string : ∀ value s, motive (.string value s))
    (identifier : ∀ name s, motive (.identifier name s))
    (access : ∀ name as s, (∀ e ∈ indices as, motive e) → motive (.access name as s))
    (unary : ∀ sign e s, motive e → motive (.unary sign e s))
    (binary : ∀ operator a b s, motive a → motive b → motive (.binary operator a b s))
    (call : ∀ callee es s, (∀ e ∈ es, motive e) → motive (.call callee es s))
    (empty : ∀ s, motive (.empty s)) (error : ∀ reason text s, motive (.error reason text s))
    (e : Expr) : motive e := by
  refine @Expr.rec motive (fun a => ∀ e ∈ indices [a], motive e)
    (fun as => ∀ e ∈ indices as, motive e) (fun es => ∀ e ∈ es, motive e) number string identifier
    access unary binary call empty error ?_ ?_ ?_ ?_ ?_ ?_ e
  · simp [indices]
  · simp [indices]
  · simp [indices]
  · intro a as ha has e he
    cases a with
    | child name s => exact has e he
    | index i s =>
      rcases List.mem_cons.1 he with rfl | he
      · exact ha e (.head _)
      · exact has e he
  · simp
  · intro a as ha has e he
    rcases List.mem_cons.1 he with rfl | he
    · exact ha
    · exact has e he

theorem argumentNodes_eq_flatMap (es : List Expr) : argumentNodes es = es.flatMap Expr.nodes := by
  induction es with
  | nil => rw [argumentNodes, List.flatMap_nil]
  | cons e es ih => rw [argumentNodes, ih, List.flatMap_cons, Expr.nodes, List.cons_append]

theorem accessorNodes_eq_flatMap (as : List Accessor) :
    accessorNodes as = (indices as).flatMap Expr.nodes := by
  induction as with
  | nil => rw [accessorNodes, indices, List.flatMap_nil]
  | cons a as ih =>
    cases a with
    | child name s => rw [accessorNodes, indices, ih]
    | index e s =>
      rw [accessorNodes, indices, ih, List.flatMap_cons, Expr.nodes, List.cons_append]

theorem mem_argumentNodes_iff {es : List Expr} {n : Expr} :
    n ∈ argumentNodes es ↔ ∃ e ∈ es, n ∈ e.nodes := by
  rw [argumentNodes_eq_flatMap, List.mem_flatMap]

theorem mem_accessorNodes_iff {as : List Accessor} {n : Expr} :
    n ∈ accessorNodes as ↔ ∃ e ∈ indices as, n ∈ e.nodes := by
  rw [accessorNodes_eq_flatMap, List.mem_flatMap]

/-- The operands, arguments and indices of a node. -/
def Expr.children : Expr → List Expr
  | .unary _ e _ => [e]
  | .binary _ a b _ => [a, b]
  | .call _ es _ => es
  | .access _ as _ => indices as
  | _ => []

/-- The nodes below a node are those of its operands, arguments and indices, one after another. -/
theorem Expr.descendants_eq_flatMap (e : Expr) : e.descendants = e.children.flatMap nodes := by
  cases e with
  | number | string | identifier | empty | error => simp [descendants, children]
  | unary sign a s => simp [descendants, children, nodes]
  | binary operator a b s => simp [descendants, children, nodes]
  | call callee es s => exact argumentNodes_eq_flatMap es
  | access name as s => exact accessorNodes_eq_flatMap as

theorem Expr.mem_descendants_iff {e n : Expr} :
    n ∈ e.descendants ↔ ∃ c ∈ e.children, n ∈ c.nodes := by
  rw [descendants_eq_flatMap, List.mem_flatMap]

theorem Expr.mem_nodes_iff {e n : Expr} : n ∈ e.nodes ↔ n = e ∨ ∃ c ∈ e.children, n ∈ c.nodes := by
  rw [nodes, List.mem_cons, mem_descendants_iff]

theorem Expr.mem_nodes_of_child {n c e : Expr} (hc : c ∈ e.children) (hn : n ∈ c.nodes) :
    n ∈ e.nodes :=
  mem_nodes_iff.2 (.inr ⟨c, hc, hn⟩)

/-- Induction over a tree that treats all nodes alike. -/
theorem Expr.induction_children {motive : Expr → Prop}
    (step : ∀ e, (∀ c ∈ Expr.children e, motive c) → motive e) (e : Expr) : motive e := by
  induction e with
  | number | string | identifier | empty | error => exact step _ nofun
  | access name as s ih => exact step _ ih
  | call callee es s ih => exact step _ ih
  | unary sign a s ih =>
    apply step
    intro c hc
    rw [List.mem_singleton.1 hc]
    exact ih
  | binary operator a b s iha ihb =>
    apply step
    intro c hc
    rcases List.mem_cons.1 hc with rfl | hc
    · exact iha
    · rw [List.mem_singleton.1 hc]
      exact ihb

/-- The nodes of a node are nodes of the tree. -/
theorem Expr.nodes_trans {m n e : Expr} (hm : m ∈ n.nodes) (hn : n ∈ e.nodes) : m ∈ e.nodes := by
  induction e using Expr.induction_children with
  | step e ih =>
    rcases mem_nodes_iff.1 hn with rfl | ⟨c, hc, hn⟩
    · exact hm
    · exact mem_nodes_of_child hc (ih c hc hn)

/-- What stands below a node of the tree stands below its root. -/
theorem Expr.descendants_trans {m n e : Expr} (hm : m ∈ n.descendants) (hn : n ∈ e.nodes) :
    m ∈ e.descendants := by
  rcases mem_nodes_iff.1 hn with rfl | ⟨c, hc, hn⟩
  · exact hm
  · exact mem_descendants_iff.2 ⟨c, hc, nodes_trans (.tail _ hm) hn⟩

/-- The names that a callee is made of, in the order in which they are written. -/
def Callee.names : Callee → List Name
  | free f => [f]
  | onObject o f => [o, f]
  | onBehavior o b f => [o, b, f]

theorem Callee.function_mem_names (callee : Callee) : callee.function ∈ callee.names := by
  cases callee <;> simp [function, names]

/-- The accessors of a variable. -/
def Expr.accessors : Expr → List Accessor
  | access _ as _ => as
  | _ => []

/-- The names that a node is written with, each at a place of its own. -/
def Expr.names : Expr → List Name
  | access name _ _ => [name]
  | call callee _ _ => callee.names
  | _ => []

@[simp] theorem Expr.accessors_withSpan (s : Span) (e : Expr) :
    (e.withSpan s).accessors = e.accessors := by
  cases e <;> rfl

@[simp] theorem Expr.names_withSpan (s : Span) (e : Expr) : (e.withSpan s).names = e.names := by
  cases e <;> rfl

/-- Whether a node stands for something that was written and could be read. -/
def Expr.isWritten : Expr → Bool
  | .empty _ | .error _ _ _ => false
  | _ => true

@[simp] theorem Expr.descendants_withSpan (s : Span) (e : Expr) :
    (e.withSpan s).descendants = e.descendants := by
  cases e <;> simp only [Expr.withSpan, Expr.descendants]

@[simp] theorem Expr.children_withSpan (s : Span) (e : Expr) :
    (e.withSpan s).children = e.children := by
  cases e <;> rfl

@[simp] theorem Expr.isWritten_withSpan (s : Span) (e : Expr) :
    (e.withSpan s).isWritten = e.isWritten := by
  cases e <;> rfl

theorem Concrete.isWritten_expr : ∀ c : Concrete, c.expr.isWritten = true
  | .group o e u => by
    rw [Concrete.expr, Expr.isWritten_withSpan]
    exact e.isWritten_expr
  | .number _ | .string _ | .name _ | .signed _ _ _ | .operation _ _ _ _ | .call _ _ _
  | .callWith _ _ _ _ _ | .access _ _ => by
    rw [Concrete.expr]
    rfl

mutual

theorem Concrete.isWritten_of_mem_descendants :
    ∀ (c : Concrete) {e : Expr}, e ∈ c.expr.descendants → e.isWritten = true
  | .number _, e, h | .string _, e, h | .name _, e, h | .call _ _ _, e, h => by
    simp [Concrete.expr, Expr.descendants, argumentNodes] at h
  | .group o c u, e, h => by
    rw [Concrete.expr, Expr.descendants_withSpan] at h
    exact c.isWritten_of_mem_descendants h
  | .signed s t c, e, h => by
    simp only [Concrete.expr, Expr.descendants, List.mem_cons] at h
    rcases h with rfl | h
    · exact c.isWritten_expr
    · exact c.isWritten_of_mem_descendants h
  | .operation o t a b, e, h => by
    simp only [Concrete.expr, Expr.descendants, List.mem_cons, List.mem_append] at h
    rcases h with rfl | h | rfl | h
    · exact a.isWritten_expr
    · exact a.isWritten_of_mem_descendants h
    · exact b.isWritten_expr
    · exact b.isWritten_of_mem_descendants h
  | .callWith head o c as u, e, h => by
    simp only [Concrete.expr, Expr.descendants, argumentNodes, List.mem_cons, List.mem_append] at h
    rcases h with rfl | h | h
    · exact c.isWritten_expr
    · exact c.isWritten_of_mem_descendants h
    · exact as.isWritten_of_mem h
  | .access n as, e, h => by
    rw [Concrete.expr, Expr.descendants] at h
    exact as.isWritten_of_mem h

theorem Arguments.isWritten_of_mem : ∀ (as : Arguments) {e : Expr}, e ∈ argumentNodes as.exprs →
    e.isWritten = true
  | .nil, e, h => by simp [Arguments.exprs, argumentNodes] at h
  | .cons m c as, e, h => by
    simp only [Arguments.exprs, argumentNodes, List.mem_cons, List.mem_append] at h
    rcases h with rfl | h | h
    · exact c.isWritten_expr
    · exact c.isWritten_of_mem_descendants h
    · exact as.isWritten_of_mem h

theorem Accessors.isWritten_of_mem : ∀ (as : Accessors) {e : Expr}, e ∈ accessorNodes as.steps →
    e.isWritten = true
  | .nil, e, h => by simp [Accessors.steps, accessorNodes] at h
  | .child d n as, e, h => by
    rw [Accessors.steps, accessorNodes] at h
    exact as.isWritten_of_mem h
  | .index o c u as, e, h => by
    simp only [Accessors.steps, accessorNodes, List.mem_cons, List.mem_append] at h
    rcases h with rfl | h | h
    · exact c.isWritten_expr
    · exact c.isWritten_of_mem_descendants h
    · exact as.isWritten_of_mem h

end

/-- The tree of a derivation is written throughout. -/
theorem Concrete.isWritten_of_mem_nodes (c : Concrete) {e : Expr} (h : e ∈ c.expr.nodes) :
    e.isWritten = true := by
  rcases List.mem_cons.1 h with rfl | h
  · exact c.isWritten_expr
  · exact c.isWritten_of_mem_descendants h

end EventSheet
