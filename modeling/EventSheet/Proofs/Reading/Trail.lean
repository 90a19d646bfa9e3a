import EventSheet.Proofs.Reading.Effects
import Mathlib.Data.List.Perm.Subperm

/-!
# Watching a reading

`Traced` keeps every visit that a reading makes: the place, the tokens that were to come there and
those that were to come where the expressions around it had been entered. `Trail` says what the
visits between two places have in common. Reading only goes forward; between two visits to one loop,
or to the entries of two expressions, a token is taken; and one is taken before every entry after
the entries of all expressions around it. Trails are put together end to end, where two visits at
the seam can only clash when no token is taken there.
-/

namespace EventSheet

/-- A visit that reading makes. -/
structure Visit where
  place : Waypoint
  /-- What was to come where the expressions around were entered, the outermost first. -/
  within : List (List Token)
  /-- What is to come. -/
  rest : List Token

namespace Visit

/-- Made inside of an expression that is entered where the tokens are to come. -/
def inside (entered : List Token) (v : Visit) : Visit := { v with within := entered :: v.within }

/-- Two visits to one loop, or to the entries of two expressions. What is done in one run of an
expression has the same entries around it, and each run goes through each loop once at most. -/
def Clashes (v w : Visit) : Prop := v.place = w.place ∧ (v.within = w.within ∨ v.place = .entry)

/-- The second visit may be made after the first. -/
structure Before (v w : Visit) : Prop where
  forward : w.rest <:+ v.rest
  strict : v.Clashes w → w.rest.length < v.rest.length

/-- No bound was reached, and the visit is made behind the entries of all expressions around it. -/
structure Sound (v : Visit) : Prop where
  bounded : v.place ≠ .cutoff
  enclosed : ∀ e ∈ v.within, v.rest <:+ e ∧ (v.place = .entry → v.rest.length < e.length)

variable {v w : Visit} {e : List Token}

theorem Before.inside (h : v.Before w) : (v.inside e).Before (w.inside e) where
  forward := h.forward
  strict hclash := h.strict ⟨hclash.1, hclash.2.imp_left fun heq => (List.cons.inj heq).2⟩

end Visit

/-- The visits made on the way from one place to another. -/
structure Trail (ts : List Token) (vs : List Visit) (us : List Token) : Prop where
  forward : us <:+ ts
  between : ∀ v ∈ vs, us <:+ v.rest ∧ v.rest <:+ ts
  ordered : vs.Pairwise Visit.Before
  sound : ∀ v ∈ vs, v.Sound

namespace Trail

variable {ts ts' us us' mid : List Token} {vs ws : List Visit} {place : Waypoint}

theorem nil (h : us <:+ ts) : Trail ts [] us := ⟨h, nofun, .nil, nofun⟩

theorem start (h : Trail ts vs us) (hts : ts <:+ ts') : Trail ts' vs us where
  forward := h.forward.trans hts
  between v hv := ⟨(h.between v hv).1, (h.between v hv).2.trans hts⟩
  ordered := h.ordered
  sound := h.sound

theorem stop (h : Trail ts vs us) (hus : us' <:+ us) : Trail ts vs us' where
  forward := hus.trans h.forward
  between v hv := ⟨hus.trans (h.between v hv).1, (h.between v hv).2⟩
  ordered := h.ordered
  sound := h.sound

/-- Two trails end to end, where no visit of the second clashes with one of the first unless a token
is taken between them. -/
theorem append (h : Trail ts vs mid) (h' : Trail mid ws us)
    (hcross : ∀ v ∈ vs, ∀ w ∈ ws, v.Clashes w → w.rest.length < v.rest.length) :
    Trail ts (vs ++ ws) us where
  forward := h'.forward.trans h.forward
  between := by
    intro v hv
    rcases List.mem_append.1 hv with hv | hv
    · exact ⟨h'.forward.trans (h.between v hv).1, (h.between v hv).2⟩
    · exact ⟨(h'.between v hv).1, (h'.between v hv).2.trans h.forward⟩
  ordered := by
    refine List.pairwise_append.2 ⟨h.ordered, h'.ordered, ?_⟩
    intro v hv w hw
    exact ⟨(h'.between w hw).2.trans (h.between v hv).1, hcross v hv w hw⟩
  sound := by
    intro v hv
    exact (List.mem_append.1 hv).elim (h.sound v) (h'.sound v)

/-- Two trails with a token taken between them. -/
theorem append_of_lt (h : Trail ts vs mid) (h' : Trail us ws us') (hmid : us <:+ mid)
    (hlt : us.length < mid.length) : Trail ts (vs ++ ws) us' := by
  refine h.append (h'.start hmid) ?_
  intro v hv w hw _
  have hv := (h.between v hv).1.length_le
  have hw := (h'.between w hw).2.length_le
  omega

/-- A visit at the start of a trail. -/
theorem visit (h : Trail ts vs us) (hplace : place ≠ .cutoff)
    (hfirst : ∀ w ∈ vs, place = w.place → w.within = [] ∨ place = .entry →
      w.rest.length < ts.length) :
    Trail ts (⟨place, [], ts⟩ :: vs) us where
  forward := h.forward
  between := List.forall_mem_cons.2 ⟨⟨h.forward, List.suffix_refl ts⟩, h.between⟩
  ordered := by
    refine List.pairwise_cons.2 ⟨?_, h.ordered⟩
    intro w hw
    exact ⟨(h.between w hw).2, fun hclash => hfirst w hw hclash.1 (hclash.2.imp_left Eq.symm)⟩
  sound := List.forall_mem_cons.2 ⟨⟨hplace, nofun⟩, h.sound⟩

/-- A visit before a token is taken. -/
theorem visit_of_lt (h : Trail us vs us') (hplace : place ≠ .cutoff) (hts : us <:+ ts)
    (hlt : us.length < ts.length) : Trail ts (⟨place, [], ts⟩ :: vs) us' := by
  refine (h.start hts).visit hplace ?_
  intro w hw _ _
  exact Nat.lt_of_le_of_lt (h.between w hw).2.length_le hlt

/-- A single visit. -/
theorem single (hplace : place ≠ .cutoff) (h : us <:+ ts) : Trail ts [⟨place, [], ts⟩] us :=
  (nil h).visit hplace nofun

/-- The trail through an expression, from its entry on. -/
theorem enter (h : Trail ts vs us)
    (hentries : ∀ v ∈ vs, v.place = .entry → v.rest.length < ts.length) :
    Trail ts (⟨.entry, [], ts⟩ :: vs.map (Visit.inside ts)) us := by
  have hinside : Trail ts (vs.map (Visit.inside ts)) us := by
    refine ⟨h.forward, ?_, ?_, ?_⟩
    · exact List.forall_mem_map.2 h.between
    · exact List.pairwise_map.2 (h.ordered.imp Visit.Before.inside)
    · refine List.forall_mem_map.2 fun v hv => ⟨(h.sound v hv).bounded, ?_⟩
      exact List.forall_mem_cons.2
        ⟨⟨(h.between v hv).2, hentries v hv⟩, (h.sound v hv).enclosed⟩
  refine hinside.visit nofun ?_
  intro w hw hplace _
  obtain ⟨v, hv, rfl⟩ := List.mem_map.1 hw
  exact hentries v hv hplace.symm

/-- Behind a token that is taken all visits of a trail are further on than the token. -/
theorem lt_of_mem (h : Trail us vs us') (hlt : us.length < ts.length) {v : Visit} (hv : v ∈ vs) :
    v.rest.length < ts.length :=
  Nat.lt_of_le_of_lt (h.between v hv).2.length_le hlt

/-- There are at most as many entries as tokens, and one more: no two have as many tokens left. -/
theorem countP_entry_le (h : Trail ts vs us) :
    vs.countP (·.place == .entry) ≤ ts.length + 1 := by
  let left := (vs.filter (·.place == .entry)).map (·.rest.length)
  have hfalling : left.Pairwise (· > ·) := by
    refine List.pairwise_map.2 (List.pairwise_filter.2 (h.ordered.imp ?_))
    intro v w hbefore hv hw
    have hv : v.place = .entry := beq_iff_eq.1 hv
    have hw : w.place = .entry := beq_iff_eq.1 hw
    exact hbefore.strict ⟨hv.trans hw.symm, .inr hv⟩
  have hrange : left ⊆ List.range (ts.length + 1) := by
    refine List.forall_mem_map.2 fun v hv => List.mem_range.2 (Nat.lt_succ_of_le ?_)
    exact (h.between v (List.mem_of_mem_filter hv)).2.length_le
  have hlength := (List.subperm_of_subset (hfalling.imp Nat.ne_of_gt) hrange).length_le
  rwa [List.length_map, List.length_range, ← List.countP_eq_length_filter] at hlength

end Trail

/-! ### The monad -/

/-- A result and the visits made on the way to it. -/
structure Traced (α : Type) where
  result : α
  visits : List Visit

namespace Traced

instance : Monad Traced where
  pure a := ⟨a, []⟩
  bind x f := ⟨(f x.result).result, x.visits ++ (f x.result).visits⟩

instance : Watch Traced where
  visit place r := ⟨(), [⟨place, [], r.tokens⟩]⟩

/-- What is done in an expression that is entered at the reader. -/
def enter {α : Type} (r : Reader) (x : Traced α) : Traced α :=
  ⟨x.result, ⟨.entry, [], r.tokens⟩ :: x.visits.map (Visit.inside r.tokens)⟩

section

variable {α β : Type}

@[simp] theorem result_pure (a : α) : (pure a : Traced α).result = a := rfl

@[simp] theorem visits_pure (a : α) : (pure a : Traced α).visits = [] := rfl

@[simp] theorem result_bind (x : Traced α) (f : α → Traced β) :
    (x >>= f).result = (f x.result).result := rfl

@[simp] theorem visits_bind (x : Traced α) (f : α → Traced β) :
    (x >>= f).visits = x.visits ++ (f x.result).visits := rfl

@[simp] theorem visits_visit (place : Waypoint) (r : Reader) :
    (Watch.visit place r : Traced Unit).visits = [⟨place, [], r.tokens⟩] := rfl

@[simp] theorem result_enter (r : Reader) (x : Traced α) : (enter r x).result = x.result := rfl

@[simp] theorem visits_enter (r : Reader) (x : Traced α) :
    (enter r x).visits = ⟨.entry, [], r.tokens⟩ :: x.visits.map (Visit.inside r.tokens) := rfl

end

/-- What is yielded is the result. -/
def yields : Effectful.Yields Traced where
  Yield x a := x.result = a
  pure _ := rfl
  bind hx hf := by
    cases hx
    exact hf
  visit _ _ := rfl

end Traced

end EventSheet
