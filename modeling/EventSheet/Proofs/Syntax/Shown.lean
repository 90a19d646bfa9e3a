import EventSheet.Proofs.Syntax.Outline

/-!
# What a listing shows of a tree

`Expr.shown` is a tree without the places of its names and the reasons of its errors, which are not
listed (`Expr.outline_shown`). All the rest can be read off the lines: `Expr.dump_eq_iff`. The names
of a path stand in it without quotes, so this takes names that hold none of the signs between names.
-/

namespace EventSheet

/-- A name wherever it stands. -/
def Name.shown (name : Name) : Name := ⟨name.text, .point 0⟩

/-- A callee wherever its names stand. -/
def Callee.shown : Callee → Callee
  | free f => free f.shown
  | onObject o f => onObject o.shown f.shown
  | onBehavior o b f => onBehavior o.shown b.shown f.shown

mutual

/-- A tree but for where its names stand and why its errors could not be read. -/
def Expr.shown : Expr → Expr
  | .access name as s => .access name.shown (shownAccessors as) s
  | .unary sign e s => .unary sign e.shown s
  | .binary operator a b s => .binary operator a.shown b.shown s
  | .call callee es s => .call callee.shown (shownArguments es) s
  | .error _ text s => .error "" text s
  | .number text s => .number text s
  | .string value s => .string value s
  | .identifier name s => .identifier name s
  | .empty s => .empty s

/-- What is shown of the arguments of a call. -/
def shownArguments : List Expr → List Expr
  | [] => []
  | e :: es => e.shown :: shownArguments es

/-- What is shown of a chain of accessors. -/
def shownAccessors : List Accessor → List Accessor
  | [] => []
  | .child name s :: as => .child name s :: shownAccessors as
  | .index e s :: as => .index e.shown s :: shownAccessors as

end

mutual

/-- Nothing else is listed. -/
theorem Expr.outline_shown : ∀ e : Expr, e.shown.outline = e.outline
  | .number _ _ | .string _ _ | .identifier _ _ | .empty _ | .error _ _ _ => rfl
  | .access name as s => by
    rw [Expr.shown, Expr.outline, Expr.outline, accessorOutlines_shown as]
    rfl
  | .unary sign e s => by
    rw [Expr.shown, Expr.outline, Expr.outline, Expr.outline_shown e]
    rfl
  | .binary operator a b s => by
    rw [Expr.shown, Expr.outline, Expr.outline, Expr.outline_shown a, Expr.outline_shown b]
    rfl
  | .call callee es s => by
    have hpath : callee.shown.path = callee.path := by cases callee <;> rfl
    rw [Expr.shown, Expr.outline, Expr.outline, argumentOutlines_shown es, Expr.entry, Expr.entry,
      hpath]

theorem argumentOutlines_shown : ∀ es : List Expr,
    argumentOutlines (shownArguments es) = argumentOutlines es
  | [] => rfl
  | e :: es => by
    rw [shownArguments, argumentOutlines, argumentOutlines, Expr.outline_shown e,
      argumentOutlines_shown es]

theorem accessorOutlines_shown : ∀ as : List Accessor,
    accessorOutlines (shownAccessors as) = accessorOutlines as
  | [] => rfl
  | .child name s :: as => by
    rw [shownAccessors, accessorOutlines, accessorOutlines, accessorOutlines_shown as]
  | .index e s :: as => by
    rw [shownAccessors, accessorOutlines, accessorOutlines, Expr.outline_shown e,
      accessorOutlines_shown as]
    rfl

end

/-- A name that can be told from the signs around it. -/
def Name.Plain (name : Name) : Prop := '.' ∉ name.text.toList ∧ ':' ∉ name.text.toList

/-- The names of a path, parted at the signs between them. -/
def pathParts (path : String) : List (List (List Char)) :=
  (path.toList.splitOn '.').map (·.splitOn ':')

theorem Callee.pathParts_path {c : Callee} (h : ∀ name ∈ c.names, name.Plain) :
    pathParts c.path =
      match c with
      | free f => [[f.text.toList]]
      | onObject o f => [[o.text.toList], [f.text.toList]]
      | onBehavior o b f => [[o.text.toList], [b.text.toList, [], f.text.toList]] := by
  have hdot : ∀ name ∈ c.names, name.text.toList.splitOn '.' = [name.text.toList] :=
    fun name hname => List.splitOn_eq_singleton (h name hname).1
  have hcolon : ∀ name ∈ c.names, name.text.toList.splitOn ':' = [name.text.toList] :=
    fun name hname => List.splitOn_eq_singleton (h name hname).2
  cases c with
  | free f =>
    simp only [names, List.forall_mem_singleton] at hdot hcolon
    simp [pathParts, path, hdot, hcolon]
  | onObject o f =>
    simp only [names, List.forall_mem_cons] at h hdot hcolon
    simp [pathParts, path, List.splitOn_append_cons_self_of_not_mem h.1.1, hdot, hcolon]
  | onBehavior o b f =>
    simp only [names, List.forall_mem_cons] at h hdot hcolon
    have hpart : '.' ∉ b.text.toList ++ ':' :: ':' :: f.text.toList := by
      simp [h.2.1.1, h.2.2.1.1]
    simp [pathParts, path, List.splitOn_append_cons_self_of_not_mem h.1.1,
      List.splitOn_eq_singleton hpart, List.splitOn_append_cons_self_of_not_mem h.2.1.2,
      List.splitOn_cons_eq_if_modifyHead, hcolon]

/-- The path of a callee says which names it is made of. -/
theorem Callee.shown_eq_of_path {c d : Callee} (hc : ∀ name ∈ c.names, name.Plain)
    (hd : ∀ name ∈ d.names, name.Plain) (h : c.path = d.path) : c.shown = d.shown := by
  have hparts := congrArg pathParts h
  rw [pathParts_path hc, pathParts_path hd] at hparts
  cases c <;> cases d <;> simp_all [shown, Name.shown, String.toList_inj]

theorem Sign.symbol_injective {a b : Sign} (h : a.symbol = b.symbol) : a = b := by
  cases a <;> cases b <;> first | rfl | exact absurd h (by decide)

theorem Operator.symbol_injective {a b : Operator} (h : a.symbol = b.symbol) : a = b := by
  cases a <;> cases b <;> first | rfl | exact absurd h (by decide)

/-- All names of a tree can be told from the signs around them. -/
def Expr.PlainNames (e : Expr) : Prop := ∀ n ∈ e.nodes, ∀ name ∈ n.names, name.Plain

theorem Expr.PlainNames.child {e c : Expr} (h : e.PlainNames) (hc : c ∈ e.children) :
    c.PlainNames :=
  fun n hn => h n (mem_nodes_of_child hc hn)

mutual

/-- What is listed of a tree determines what is shown of it. -/
theorem Expr.shown_eq_of_outline : ∀ {e f : Expr}, e.PlainNames → f.PlainNames →
    e.outline = f.outline → e.shown = f.shown
  | .number text s, f, _, _, h => by
    cases f <;> simp_all [Expr.outline, Expr.entry, Expr.shown]
  | .string value s, f, _, _, h => by
    cases f <;> simp_all [Expr.outline, Expr.entry, Expr.shown]
    exact Text.quoted_injective h.2
  | .identifier name s, f, _, _, h => by
    cases f <;> simp_all [Expr.outline, Expr.entry, Expr.shown]
  | .empty s, f, _, _, h => by
    cases f <;> simp_all [Expr.outline, Expr.entry, Expr.shown]
  | .error reason text s, f, _, _, h => by
    cases f <;> simp_all [Expr.outline, Expr.entry, Expr.shown]
    exact Text.quoted_injective h.2
  | .access name as s, f, he, hf, h => by
    cases f with
    | access name' as' s' =>
      simp only [Expr.outline, Expr.entry, Outline.node.injEq, Entry.mk.injEq, Option.some.injEq,
        true_and] at h
      obtain ⟨⟨rfl, hname⟩, hbelow⟩ := h
      have has : shownAccessors as = shownAccessors as' :=
        shownAccessors_eq_of_outlines (fun _ => he.child) (fun _ => hf.child) hbelow
      rw [Expr.shown, Expr.shown, Name.shown, Name.shown, hname, has]
    | _ => simp [Expr.outline, Expr.entry] at h
  | .unary sign a s, f, he, hf, h => by
    cases f with
    | unary sign' a' s' =>
      simp only [Expr.outline, Expr.entry, Outline.node.injEq, Entry.mk.injEq, Option.some.injEq,
        List.cons.injEq, true_and, and_true] at h
      obtain ⟨⟨rfl, hsymbol⟩, hbelow⟩ := h
      have ha := Expr.shown_eq_of_outline (he.child (.head _)) (hf.child (.head _)) hbelow
      rw [Expr.shown, Expr.shown, Sign.symbol_injective hsymbol, ha]
    | _ => simp [Expr.outline, Expr.entry] at h
  | .binary operator a b s, f, he, hf, h => by
    cases f with
    | binary operator' a' b' s' =>
      simp only [Expr.outline, Expr.entry, Outline.node.injEq, Entry.mk.injEq, Option.some.injEq,
        List.cons.injEq, true_and, and_true] at h
      obtain ⟨⟨rfl, hsymbol⟩, hleft, hright⟩ := h
      have ha := Expr.shown_eq_of_outline (he.child (.head _)) (hf.child (.head _)) hleft
      have hb := Expr.shown_eq_of_outline (he.child (.tail _ (.head _)))
        (hf.child (.tail _ (.head _))) hright
      rw [Expr.shown, Expr.shown, Operator.symbol_injective hsymbol, ha, hb]
    | _ => simp [Expr.outline, Expr.entry] at h
  | .call callee es s, f, he, hf, h => by
    cases f with
    | call callee' fs s' =>
      simp only [Expr.outline, Expr.entry, Outline.node.injEq, Entry.mk.injEq, Option.some.injEq,
        true_and] at h
      obtain ⟨⟨rfl, hpath⟩, hbelow⟩ := h
      have hcallee := Callee.shown_eq_of_path (he _ (.head _)) (hf _ (.head _)) hpath
      have hes : shownArguments es = shownArguments fs :=
        shownArguments_eq_of_outlines (fun _ => he.child) (fun _ => hf.child) hbelow
      rw [Expr.shown, Expr.shown, hcallee, hes]
    | _ => simp [Expr.outline, Expr.entry] at h

theorem shownArguments_eq_of_outlines : ∀ {es fs : List Expr}, (∀ e ∈ es, e.PlainNames) →
    (∀ f ∈ fs, f.PlainNames) → argumentOutlines es = argumentOutlines fs →
    shownArguments es = shownArguments fs
  | [], [], _, _, _ => rfl
  | [], f :: fs, _, _, h => by simp [argumentOutlines] at h
  | e :: es, [], _, _, h => by simp [argumentOutlines] at h
  | e :: es, f :: fs, hes, hfs, h => by
    simp only [argumentOutlines, List.cons.injEq] at h
    have he := Expr.shown_eq_of_outline (hes e (.head _)) (hfs f (.head _)) h.1
    have hrest := shownArguments_eq_of_outlines (fun e he => hes e (.tail _ he))
      (fun f hf => hfs f (.tail _ hf)) h.2
    rw [shownArguments, shownArguments, he, hrest]

theorem shownAccessors_eq_of_outlines : ∀ {as bs : List Accessor},
    (∀ e ∈ indices as, e.PlainNames) → (∀ f ∈ indices bs, f.PlainNames) →
    accessorOutlines as = accessorOutlines bs → shownAccessors as = shownAccessors bs
  | [], [], _, _, _ => rfl
  | [], b :: bs, _, _, h => by cases b <;> simp [accessorOutlines] at h
  | a :: as, [], _, _, h => by cases a <;> simp [accessorOutlines] at h
  | .child name s :: as, .child name' s' :: bs, has, hbs, h => by
    simp only [accessorOutlines, Accessor.entry, List.cons.injEq, Outline.node.injEq,
      Entry.mk.injEq, Option.some.injEq, true_and, and_true] at h
    obtain ⟨⟨rfl, rfl⟩, hrest⟩ := h
    have hrest : shownAccessors as = shownAccessors bs :=
      shownAccessors_eq_of_outlines (fun e he => has e he) (fun f hf => hbs f hf) hrest
    rw [shownAccessors, shownAccessors, hrest]
  | .index e s :: as, .index f s' :: bs, has, hbs, h => by
    simp only [accessorOutlines, Accessor.entry, List.cons.injEq, Outline.node.injEq,
      Entry.mk.injEq, true_and, and_true] at h
    obtain ⟨⟨rfl, hindex⟩, hrest⟩ := h
    have he := Expr.shown_eq_of_outline (has e (.head _)) (hbs f (.head _)) hindex
    have hrest := shownAccessors_eq_of_outlines (fun e he => has e (.tail _ he))
      (fun f hf => hbs f (.tail _ hf)) hrest
    rw [shownAccessors, shownAccessors, he, hrest]
  | .child name s :: as, .index f s' :: bs, _, _, h => by
    simp [accessorOutlines, Accessor.entry] at h
  | .index e s :: as, .child name s' :: bs, _, _, h => by
    simp [accessorOutlines, Accessor.entry] at h

end

/-- Two trees are listed alike exactly when they are shown alike. -/
theorem Expr.dump_eq_iff {e f : Expr} (he : e.PlainNames) (hf : f.PlainNames) :
    e.dump = f.dump ↔ e.shown = f.shown := by
  constructor
  · exact fun h => shown_eq_of_outline he hf (outline_eq_of_dump h)
  · intro h
    rw [dump_eq_listing, dump_eq_listing, ← outline_shown e, h, outline_shown f]

end EventSheet
