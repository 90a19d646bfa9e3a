import EventSheet.Expr.Dump
import EventSheet.Proofs.Syntax.Nodes
import EventSheet.Proofs.Text.Quoting
import Mathlib.Algebra.Ring.Nat

/-!
# Outlines of trees

What is listed of a tree, as a tree of its own: every node and every accessor is an `Entry`, and an
`Outline` has entries below entries, an index with the tree of its expression below it. The lines of
a tree are the entries of its outline, parents first, each indented by its depth
(`Expr.dump_eq_listing`), one for each node and one for each accessor (`Expr.listing_perm`).
Indentation alone says what stands below what, so that the lines determine the outline:
`Expr.outline_eq_of_dump`.
-/

namespace EventSheet

/-- What an entry stands for. -/
inductive EntryKind
  | number
  | string
  | identifier
  | access
  | unary
  | binary
  | call
  | empty
  | error
  | child
  | index
  deriving DecidableEq

/-- How a kind is written. -/
def EntryKind.name : EntryKind → String
  | number => "NUMBER"
  | string => "STRING"
  | identifier => "IDENTIFIER"
  | access => "VARIABLE"
  | unary => "UNARY"
  | binary => "BINARY"
  | call => "CALL"
  | empty => "EMPTY"
  | error => "ERROR"
  | child => "CHILD"
  | index => "INDEX"

/-- What is listed of a node or an accessor: its kind, its place and what it says. -/
structure Entry where
  kind : EntryKind
  span : Span
  said : Option String

/-- The line of an entry, without its indentation. -/
def Entry.line (e : Entry) : String :=
  s!"{e.kind.name}@{e.span.start}..{e.span.stop}" ++
    match e.said with
    | some said => " " ++ said
    | none => ""

/-- The indentation of a line. -/
def indentation (depth : Nat) : String := String.ofList (List.replicate (2 * depth) ' ')

/-- Entries below entries. -/
inductive Outline
  | node (entry : Entry) (below : List Outline)

mutual

/-- The entries of an outline with their depths, parents first. -/
def Outline.listing (depth : Nat) : Outline → List (Nat × Entry)
  | .node entry below => (depth, entry) :: listings (depth + 1) below

/-- The entries of outlines that stand side by side. -/
def listings (depth : Nat) : List Outline → List (Nat × Entry)
  | [] => []
  | o :: os => o.listing depth ++ listings depth os

end

/-- What is listed of a node. -/
def Expr.entry : Expr → Entry
  | .number text s => ⟨.number, s, some text⟩
  | .string value s => ⟨.string, s, some (Text.quoted value)⟩
  | .identifier name s => ⟨.identifier, s, some name⟩
  | .access name _ s => ⟨.access, s, some name.text⟩
  | .unary sign _ s => ⟨.unary, s, some sign.symbol⟩
  | .binary operator _ _ s => ⟨.binary, s, some operator.symbol⟩
  | .call callee _ s => ⟨.call, s, some callee.path⟩
  | .empty s => ⟨.empty, s, none⟩
  | .error _ text s => ⟨.error, s, some (Text.quoted text)⟩

/-- What is listed of an accessor. -/
def Accessor.entry : Accessor → Entry
  | .child name s => ⟨.child, s, some name⟩
  | .index _ s => ⟨.index, s, none⟩

mutual

/-- What is listed of a tree. -/
def Expr.outline : Expr → Outline
  | .access name as s => .node (Expr.entry (.access name as s)) (accessorOutlines as)
  | .unary sign a s => .node (Expr.entry (.unary sign a s)) [a.outline]
  | .binary operator a b s =>
    .node (Expr.entry (.binary operator a b s)) [a.outline, b.outline]
  | .call callee es s => .node (Expr.entry (.call callee es s)) (argumentOutlines es)
  | e => .node e.entry []

/-- What is listed of the arguments of a call. -/
def argumentOutlines : List Expr → List Outline
  | [] => []
  | e :: es => e.outline :: argumentOutlines es

/-- What is listed of a chain of accessors. The tree of an index is below the index. -/
def accessorOutlines : List Accessor → List Outline
  | [] => []
  | .child name s :: as => .node (Accessor.entry (.child name s)) [] :: accessorOutlines as
  | .index e s :: as => .node (Accessor.entry (.index e s)) [e.outline] :: accessorOutlines as

end

/-! ### Listings -/

/-- The line of an entry at its depth. -/
def listedLine (p : Nat × Entry) : String := indentation p.1 ++ p.2.line

section

variable (depth : Nat)

theorem listedLine_some (kind : EntryKind) (s : Span) (said : String) :
    listedLine (depth, ⟨kind, s, some said⟩) = dumpHead depth kind.name s ++ " " ++ said := by
  simp [listedLine, Entry.line, dumpHead, indentation, String.append_assoc]

theorem listedLine_none (kind : EntryKind) (s : Span) :
    listedLine (depth, ⟨kind, s, none⟩) = dumpHead depth kind.name s := by
  simp [listedLine, Entry.line, dumpHead, indentation]

end

mutual

theorem Expr.dumpAt_eq : ∀ (e : Expr) (depth : Nat),
    e.dumpAt depth = (e.outline.listing depth).map listedLine
  | .number text s, depth | .string value s, depth | .identifier name s, depth
  | .error reason text s, depth => by
    simp [Expr.dumpAt, Expr.outline, Expr.entry, Outline.listing, listings, listedLine_some,
      EntryKind.name]
  | .empty s, depth => by
    simp [Expr.dumpAt, Expr.outline, Expr.entry, Outline.listing, listings, listedLine_none,
      EntryKind.name]
  | .access name as s, depth => by
    simp [Expr.dumpAt, Expr.outline, Expr.entry, Outline.listing, listedLine_some, EntryKind.name,
      dumpAccessors_eq as]
  | .unary sign e s, depth => by
    simp [Expr.dumpAt, Expr.outline, Expr.entry, Outline.listing, listings, listedLine_some,
      EntryKind.name, Expr.dumpAt_eq e]
  | .binary operator a b s, depth => by
    simp [Expr.dumpAt, Expr.outline, Expr.entry, Outline.listing, listings, listedLine_some,
      EntryKind.name, Expr.dumpAt_eq a, Expr.dumpAt_eq b]
  | .call callee es s, depth => by
    simp [Expr.dumpAt, Expr.outline, Expr.entry, Outline.listing, listedLine_some, EntryKind.name,
      dumpArguments_eq es]

theorem dumpArguments_eq : ∀ (es : List Expr) (depth : Nat),
    dumpArguments depth es = (listings (depth + 1) (argumentOutlines es)).map listedLine
  | [], depth => by simp [dumpArguments, argumentOutlines, listings]
  | e :: es, depth => by
    simp [dumpArguments, argumentOutlines, listings, Expr.dumpAt_eq e, dumpArguments_eq es]

theorem dumpAccessors_eq : ∀ (as : List Accessor) (depth : Nat),
    dumpAccessors depth as = (listings (depth + 1) (accessorOutlines as)).map listedLine
  | [], depth => by simp [dumpAccessors, accessorOutlines, listings]
  | .child name s :: as, depth => by
    simp [dumpAccessors, accessorOutlines, Accessor.entry, listings, Outline.listing,
      listedLine_some, EntryKind.name, dumpAccessors_eq as]
  | .index e s :: as, depth => by
    simp [dumpAccessors, accessorOutlines, Accessor.entry, listings, Outline.listing,
      listedLine_none, EntryKind.name, Expr.dumpAt_eq e, dumpAccessors_eq as]

end

/-- The lines of a tree are the entries of its outline. -/
theorem Expr.dump_eq_listing (e : Expr) : e.dump = (e.outline.listing 0).map listedLine :=
  e.dumpAt_eq 0

/-! ### What is listed -/

/-- Whether an entry stands for a node. -/
def Entry.isNode (e : Entry) : Bool :=
  match e.kind with
  | .child | .index => false
  | _ => true

theorem Expr.isNode_entry (e : Expr) : e.entry.isNode = true := by cases e <;> rfl

/-- What is listed of a node and its accessors, but for what is below them. -/
def Expr.entries (e : Expr) : List Entry := e.entry :: e.accessors.map Accessor.entry

mutual

/-- The nodes of a tree are listed one after another, parents first. -/
theorem Expr.filter_isNode_listing : ∀ (e : Expr) (depth : Nat),
    ((e.outline.listing depth).map Prod.snd).filter Entry.isNode = e.nodes.map Expr.entry
  | .number _ _, _ | .string _ _, _ | .identifier _ _, _ | .empty _, _ | .error _ _ _, _ => rfl
  | .access name as s, depth => by
    simp only [Expr.outline, Outline.listing, List.map_cons,
      List.filter_cons_of_pos (Expr.isNode_entry _), filter_isNode_accessors as, Expr.nodes,
      Expr.descendants]
  | .unary sign e s, depth => by
    simp only [Expr.outline, Outline.listing, listings, List.append_nil, List.map_cons,
      List.filter_cons_of_pos (Expr.isNode_entry _), Expr.filter_isNode_listing e, Expr.nodes,
      Expr.descendants]
  | .binary operator a b s, depth => by
    simp only [Expr.outline, Outline.listing, listings, List.append_nil, List.map_cons,
      List.map_append, List.filter_cons_of_pos (Expr.isNode_entry _), List.filter_append,
      Expr.filter_isNode_listing a, Expr.filter_isNode_listing b, Expr.nodes, Expr.descendants,
      List.cons_append]
  | .call callee es s, depth => by
    simp only [Expr.outline, Outline.listing, List.map_cons,
      List.filter_cons_of_pos (Expr.isNode_entry _), filter_isNode_arguments es, Expr.nodes,
      Expr.descendants]

theorem filter_isNode_arguments : ∀ (es : List Expr) (depth : Nat),
    ((listings depth (argumentOutlines es)).map Prod.snd).filter Entry.isNode =
      (argumentNodes es).map Expr.entry
  | [], _ => rfl
  | e :: es, depth => by
    simp only [argumentOutlines, listings, List.map_append, List.filter_append,
      Expr.filter_isNode_listing e, filter_isNode_arguments es, argumentNodes, Expr.nodes,
      List.map_cons, List.cons_append]

theorem filter_isNode_accessors : ∀ (as : List Accessor) (depth : Nat),
    ((listings depth (accessorOutlines as)).map Prod.snd).filter Entry.isNode =
      (accessorNodes as).map Expr.entry
  | [], _ => rfl
  | .child name s :: as, depth => filter_isNode_accessors as depth
  | .index e s :: as, depth => by
    have hindex : (Accessor.index e s).entry.isNode ≠ true := nofun
    simp only [accessorOutlines, Outline.listing, listings, List.append_nil, List.map_append,
      List.map_cons, List.filter_append, List.filter_cons_of_neg hindex,
      Expr.filter_isNode_listing e, filter_isNode_accessors as, accessorNodes, Expr.nodes,
      List.cons_append]

end

mutual

/-- Nothing is listed but the nodes of a tree and their accessors, each once. -/
theorem Expr.listing_perm : ∀ (e : Expr) (depth : Nat),
    ((e.outline.listing depth).map Prod.snd).Perm (e.nodes.flatMap Expr.entries)
  | .number _ _, _ | .string _ _, _ | .identifier _ _, _ | .empty _, _ | .error _ _ _, _ => .refl _
  | .access name as s, depth => (accessorListings_perm as (depth + 1)).cons _
  | .unary sign e s, depth => by
    have he := Expr.listing_perm e (depth + 1)
    simp only [Expr.outline, Outline.listing, listings, List.append_nil, List.map_cons]
    exact he.cons _
  | .binary operator a b s, depth => by
    have hsides := (Expr.listing_perm a (depth + 1)).append (Expr.listing_perm b (depth + 1))
    rw [← List.map_append, ← List.flatMap_append] at hsides
    simp only [Expr.outline, Outline.listing, listings, List.append_nil, List.map_cons]
    exact hsides.cons _
  | .call callee es s, depth => (argumentListings_perm es (depth + 1)).cons _

theorem argumentListings_perm : ∀ (es : List Expr) (depth : Nat),
    ((listings depth (argumentOutlines es)).map Prod.snd).Perm
      ((argumentNodes es).flatMap Expr.entries)
  | [], _ => .refl _
  | e :: es, depth => by
    have hboth := (Expr.listing_perm e depth).append (argumentListings_perm es depth)
    rw [← List.map_append, ← List.flatMap_append] at hboth
    exact hboth

theorem accessorListings_perm : ∀ (as : List Accessor) (depth : Nat),
    ((listings depth (accessorOutlines as)).map Prod.snd).Perm
      (as.map Accessor.entry ++ (accessorNodes as).flatMap Expr.entries)
  | [], _ => .refl _
  | .child name s :: as, depth => (accessorListings_perm as depth).cons _
  | .index e s :: as, depth => by
    have hboth := (Expr.listing_perm e (depth + 1)).append (accessorListings_perm as depth)
    -- The tree of an index is listed before the accessors behind the index, not after them.
    have hturned := hboth.trans (List.perm_append_comm_assoc _ _ _)
    rw [← List.map_append, ← List.flatMap_append] at hturned
    simp only [accessorOutlines, Outline.listing, listings, List.append_nil, List.cons_append,
      List.map_cons]
    exact hturned.cons _

end

/-- A tree has a line for each of its nodes and one for each accessor. -/
theorem Expr.length_dump (e : Expr) :
    e.dump.length = (e.nodes.map fun n => 1 + n.accessors.length).sum := by
  have hlength := (listing_perm e 0).length_eq
  rw [List.length_map] at hlength
  rw [dump_eq_listing, List.length_map, hlength, List.length_flatMap]
  simp [entries, Nat.add_comm]

/-! ### What a listing determines -/

theorem head?_listings_append (depth : Nat) (os : List Outline) (ps : List (Nat × Entry)) :
    ∀ p ∈ (listings depth os ++ ps).head?, p.1 = depth ∨ p ∈ ps.head? := by
  cases os with
  | nil => exact fun p hp => .inr hp
  | cons o os =>
    obtain ⟨entry, below⟩ := o
    rintro p ⟨⟩
    exact .inl rfl

mutual

/-- What is below an entry ends where the depth falls back to that of the entry. -/
theorem Outline.listing_append_inj : ∀ (o o' : Outline) {depth : Nat} {ps qs : List (Nat × Entry)},
    (∀ p ∈ ps.head?, p.1 ≤ depth) → (∀ q ∈ qs.head?, q.1 ≤ depth) →
    o.listing depth ++ ps = o'.listing depth ++ qs → o = o' ∧ ps = qs
  | .node entry below, .node entry' below', depth, ps, qs, hps, hqs, h => by
    simp only [Outline.listing, List.cons_append, List.cons.injEq, Prod.mk.injEq, true_and] at h
    obtain ⟨rfl, hbelow⟩ := h
    obtain ⟨rfl, hrest⟩ := listings_append_inj below below'
      (fun p hp => Nat.lt_succ_of_le (hps p hp)) (fun q hq => Nat.lt_succ_of_le (hqs q hq)) hbelow
    exact ⟨rfl, hrest⟩

/-- Outlines side by side end where the depth falls below theirs. -/
theorem listings_append_inj : ∀ (os os' : List Outline) {depth : Nat} {ps qs : List (Nat × Entry)},
    (∀ p ∈ ps.head?, p.1 < depth) → (∀ q ∈ qs.head?, q.1 < depth) →
    listings depth os ++ ps = listings depth os' ++ qs → os = os' ∧ ps = qs
  | [], [], _, _, _, _, _, h => ⟨rfl, h⟩
  | [], .node entry below :: os', depth, ps, qs, hps, _, h => by
    have h : ps = (depth, entry) :: _ := h
    exact absurd (hps _ (by rw [h]; rfl)) (Nat.lt_irrefl depth)
  | .node entry below :: os, [], depth, ps, qs, _, hqs, h => by
    have h : (depth, entry) :: _ = qs := h
    exact absurd (hqs _ (by rw [← h]; rfl)) (Nat.lt_irrefl depth)
  | o :: os, o' :: os', depth, ps, qs, hps, hqs, h => by
    rw [listings, listings, List.append_assoc, List.append_assoc] at h
    have hhead : ∀ {os : List Outline} {ps : List (Nat × Entry)}, (∀ p ∈ ps.head?, p.1 < depth) →
        ∀ p ∈ (listings depth os ++ ps).head?, p.1 ≤ depth := by
      intro os ps hps p hp
      rcases head?_listings_append depth os ps p hp with heq | hp
      · exact Nat.le_of_eq heq
      · exact Nat.le_of_lt (hps p hp)
    obtain ⟨rfl, hside⟩ := Outline.listing_append_inj o o' (hhead hps) (hhead hqs) h
    obtain ⟨rfl, hrest⟩ := listings_append_inj os os' hps hqs hside
    exact ⟨rfl, hrest⟩

end

/-- A listing determines the outline. -/
theorem Outline.listing_injective {o o' : Outline} {depth : Nat}
    (h : o.listing depth = o'.listing depth) : o = o' := by
  have hnone : ∀ p ∈ ([] : List (Nat × Entry)).head?, p.1 ≤ depth := nofun
  have hends : o.listing depth ++ [] = o'.listing depth ++ [] := by rw [h]
  exact (listing_append_inj o o' hnone hnone hends).1

/-! ### What a line determines -/

theorem EntryKind.name_injective {k k' : EntryKind} (h : k.name = k'.name) : k = k' := by
  cases k <;> cases k' <;> first | rfl | exact absurd h (by decide)

/-- A kind is written in capital letters. -/
theorem EntryKind.isUpper_of_mem (k : EntryKind) : ∀ c ∈ k.name.toList, c.isUpper = true := by
  apply List.all_eq_true.1
  cases k <;> decide

theorem toDigits_ten_injective {m n : Nat} (h : Nat.toDigits 10 m = Nat.toDigits 10 n) : m = n := by
  have hvalue : Nat.ofDigitChars 10 (Nat.toDigits 10 m) 0 = m := Nat.ofDigitChars_ten_toDigits
  rw [h, Nat.ofDigitChars_ten_toDigits] at hvalue
  exact hvalue.symm

/-- Two numbers in digits with no digit behind them. -/
theorem toDigits_append_inj {m n : Nat} {xs ys : List Char}
    (hxs : ∀ c ∈ xs.head?, c.isDigit = false) (hys : ∀ c ∈ ys.head?, c.isDigit = false)
    (h : Nat.toDigits 10 m ++ xs = Nat.toDigits 10 n ++ ys) : m = n ∧ xs = ys := by
  have hdigits : ∀ n, ∀ c ∈ Nat.toDigits 10 n, c.isDigit = true :=
    fun n c => Nat.isDigit_of_mem_toDigits (by decide) (by decide)
  obtain ⟨hnumber, hrest⟩ := Text.append_inj_of_run (hdigits m) (hdigits n) hxs hys h
  exact ⟨toDigits_ten_injective hnumber, hrest⟩

/-- What is written behind the place of an entry. -/
def Entry.tail (e : Entry) : List Char :=
  match e.said with
  | some said => ' ' :: said.toList
  | none => []

theorem Entry.toList_line (e : Entry) :
    e.line.toList = e.kind.name.toList ++
      '@' :: (Nat.toDigits 10 e.span.start ++
        '.' :: '.' :: (Nat.toDigits 10 e.span.stop ++ e.tail)) := by
  have hstring : ∀ s : String, toString s = s := fun _ => rfl
  obtain ⟨kind, s, said⟩ := e
  cases said <;> simp [line, tail, Nat.toString_eq_repr, Nat.toList_repr, hstring]

/-- A line says what its entry is. -/
theorem Entry.line_injective {e e' : Entry} (h : e.line = e'.line) : e = e' := by
  have htail : ∀ e : Entry, ∀ c ∈ e.tail.head?, c.isDigit = false := by
    rintro ⟨kind, s, said⟩
    cases said with
    | none => exact nofun
    | some said =>
      rintro c ⟨⟩
      decide
  have hchars := congrArg String.toList h
  rw [toList_line, toList_line] at hchars
  obtain ⟨hkind, hchars⟩ := Text.append_inj_of_run e.kind.isUpper_of_mem e'.kind.isUpper_of_mem
    (by rintro c ⟨⟩; decide) (by rintro c ⟨⟩; decide) hchars
  obtain ⟨hstart, hchars⟩ := toDigits_append_inj (by rintro c ⟨⟩; decide) (by rintro c ⟨⟩; decide)
    (List.cons.inj hchars).2
  obtain ⟨hstop, hsaid⟩ := toDigits_append_inj (htail e) (htail e')
    (List.cons.inj (List.cons.inj hchars).2).2
  obtain ⟨kind, ⟨start, stop⟩, said⟩ := e
  obtain ⟨kind', ⟨start', stop'⟩, said'⟩ := e'
  obtain rfl := EntryKind.name_injective (String.toList_inj.1 hkind)
  obtain rfl : start = start' := hstart
  obtain rfl : stop = stop' := hstop
  cases said with
  | none =>
    cases said' with
    | none => rfl
    | some => exact nomatch hsaid
  | some said =>
    cases said' with
    | none => exact nomatch hsaid
    | some said' =>
      obtain rfl := String.toList_inj.1 (List.cons.inj hsaid).2
      rfl

/-- A line with its indentation says moreover at which depth the entry stands. -/
theorem listedLine_injective : Function.Injective listedLine := by
  rintro ⟨depth, e⟩ ⟨depth', e'⟩ h
  have hblank : ∀ depth, ∀ c ∈ List.replicate (2 * depth) ' ', (c == ' ') = true := by
    intro depth c hc
    rw [List.eq_of_mem_replicate hc]
    rfl
  have hline : ∀ e : Entry, ∀ c ∈ e.line.toList.head?, (c == ' ') = false := by
    intro e c hc
    rw [Entry.toList_line] at hc
    cases hkind : e.kind <;> rw [hkind] at hc <;> cases hc <;> decide
  have hchars := congrArg String.toList h
  simp only [listedLine, indentation, String.toList_append, String.toList_ofList] at hchars
  obtain ⟨hdepth, hentry⟩ := Text.append_inj_of_run (hblank depth) (hblank depth') (hline e)
    (hline e') hchars
  have hdepth := congrArg List.length hdepth
  rw [List.length_replicate, List.length_replicate] at hdepth
  obtain rfl := Entry.line_injective (String.toList_inj.1 hentry)
  obtain rfl : depth = depth' := by omega
  rfl

/-- The lines of a tree determine its outline. -/
theorem Expr.outline_eq_of_dump {e f : Expr} (h : e.dump = f.dump) : e.outline = f.outline := by
  rw [dump_eq_listing, dump_eq_listing] at h
  exact Outline.listing_injective ((List.map_inj_right fun _ _ h => listedLine_injective h).1 h)

end EventSheet
