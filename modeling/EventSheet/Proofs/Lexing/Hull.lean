import EventSheet.Proofs.Lexing.Cutting

/-!
# Tokens that stand together

The hull of some tokens runs from the start of the first one to the end of the last one. The text
under the hull of tokens that stand together has these tokens and no others: `Token.lex_slice`. So
has the text before a token the tokens before it: `Token.lex_before`.
-/

namespace EventSheet

open Text (byteLength)

/-! ### Tokens one behind the other -/

namespace Token

/-- The tokens take some of the text each, one behind the other. -/
structure InOrder (ts : List Token) : Prop where
  forward : ∀ t ∈ ts, t.span.start < t.span.stop
  apart : ts.Pairwise fun t u => t.span.stop ≤ u.span.start

theorem InOrder.sublist {us ts : List Token} (h : InOrder ts) (hu : us.Sublist ts) : InOrder us :=
  ⟨fun t ht => h.forward t (hu.subset ht), h.apart.sublist hu⟩

theorem InOrder.segment {us ts : List Token} (h : InOrder ts) (hu : us <:+: ts) : InOrder us :=
  h.sublist hu.sublist

theorem InOrder.left {us vs : List Token} (h : InOrder (us ++ vs)) : InOrder us :=
  h.sublist (List.sublist_append_left us vs)

theorem InOrder.right {us vs : List Token} (h : InOrder (us ++ vs)) : InOrder vs :=
  h.sublist (List.sublist_append_right us vs)

theorem InOrder.stop_le {us vs : List Token} {u v : Token} (h : InOrder (us ++ vs)) (hu : u ∈ us)
    (hv : v ∈ vs) : u.span.stop ≤ v.span.start :=
  (List.pairwise_append.1 h.apart).2.2 u hu v hv

theorem Laid.inOrder {offset : Nat} {cs : List Char} {ts : List Token} (h : Laid offset cs ts) :
    InOrder ts :=
  ⟨fun _ ht => (h.bounds ht).2.1, h.pairwise⟩

theorem lexFrom_inOrder (offset : Nat) (cs : List Char) : InOrder (lexFrom offset cs) :=
  (lexFrom_laid offset cs).inOrder

/-- From where the first of some tokens starts to where the last one stops. -/
def hull (ts : List Token) : Span :=
  ⟨(ts.head?.map (·.span.start)).getD 0, (ts.getLast?.map (·.span.stop)).getD 0⟩

section

variable {us vs ts : List Token} {t u : Token}

@[simp] theorem hull_cons_start : (hull (t :: ts)).start = t.span.start := rfl

@[simp] theorem hull_append_cons_stop : (hull (us ++ t :: ts)).stop = (hull (t :: ts)).stop := by
  simp [hull, List.getLast?_cons]

@[simp] theorem hull_cons_cons_stop : (hull (t :: u :: ts)).stop = (hull (u :: ts)).stop := rfl

@[simp] theorem hull_singleton : hull [t] = t.span := rfl

theorem hull_ends : hull (t :: (ts ++ [u])) = ⟨t.span.start, u.span.stop⟩ := by
  simp [hull, List.getLast?_cons]

/-- The tokens stand within their hull. -/
theorem InOrder.hull_le (h : InOrder ts) (ht : t ∈ ts) :
    (hull ts).start ≤ t.span.start ∧ t.span.stop ≤ (hull ts).stop := by
  induction ts generalizing t with
  | nil => exact nomatch ht
  | cons u us ih =>
    cases us with
    | nil =>
      rw [List.mem_singleton.1 ht]
      exact ⟨Nat.le_refl _, Nat.le_refl _⟩
    | cons v vs =>
      have hrest : ∀ {t}, t ∈ v :: vs → _ := fun ht => ih (h.segment ⟨[u], [], by simp⟩) ht
      have hu := h.forward u (.head _)
      have hv := h.forward v (.tail _ (.head _))
      have hnext := (List.pairwise_cons.1 h.apart).1 v (.head _)
      rw [hull_cons_start, hull_cons_cons_stop]
      rcases List.mem_cons.1 ht with rfl | ht
      · have hlast := (hrest (.head _)).2
        exact ⟨Nat.le_refl _, by omega⟩
      · have hbounds := hrest ht
        rw [hull_cons_start] at hbounds
        omega

theorem hull_start_eq (h : us <+: ts) (hne : us ≠ []) :
    (hull us).start = (hull ts).start := by
  obtain ⟨vs, rfl⟩ := h
  obtain ⟨u, us, rfl⟩ := List.exists_cons_of_ne_nil hne
  rfl

theorem hull_stop_eq (h : us <:+ ts) (hne : us ≠ []) : (hull us).stop = (hull ts).stop := by
  obtain ⟨vs, rfl⟩ := h
  obtain ⟨u, us, rfl⟩ := List.exists_cons_of_ne_nil hne
  exact hull_append_cons_stop.symm

theorem exists_mem_start (hne : ts ≠ []) : ∃ t ∈ ts, (hull ts).start = t.span.start := by
  obtain ⟨t, ts, rfl⟩ := List.exists_cons_of_ne_nil hne
  exact ⟨t, .head _, rfl⟩

theorem exists_mem_stop (hne : ts ≠ []) : ∃ t ∈ ts, (hull ts).stop = t.span.stop :=
  ⟨ts.getLast hne, List.getLast_mem hne, by simp [hull, List.getLast?_eq_some_getLast hne]⟩

/-- Tokens that begin some others and tokens that end them span them together. -/
theorem InOrder.merge_hull (h : InOrder ts) (hu : us <+: ts) (hv : vs <:+ ts) (hune : us ≠ [])
    (hvne : vs ≠ []) : (hull us).merge (hull vs) = hull ts := by
  obtain ⟨first, hfirst, hstart⟩ := exists_mem_start hvne
  obtain ⟨last, hlast, hstop⟩ := exists_mem_stop hune
  rw [Span.merge, hull_start_eq hu hune, hull_stop_eq hv hvne, hstart, hstop,
    Nat.min_eq_left (h.hull_le (hv.subset hfirst)).1,
    Nat.max_eq_right (h.hull_le (hu.subset hlast)).2]

/-- Tokens that stand together and span as much as all of them are all of them. -/
theorem InOrder.eq_of_hull (h : InOrder ts) (hu : us <:+: ts) (hne : us ≠ [])
    (hhull : hull us = hull ts) : us = ts := by
  obtain ⟨before, behind, rfl⟩ := hu
  obtain ⟨first, hfirst, hstart⟩ := exists_mem_start hne
  obtain ⟨last, hlast, hstop⟩ := exists_mem_stop hne
  have hbefore : before = [] := by
    refine List.eq_nil_iff_forall_not_mem.2 fun t ht => ?_
    have hnext := h.left.stop_le ht hfirst
    have hforward := h.forward t (by simp [ht])
    have hbounds := h.hull_le (t := t) (by simp [ht])
    rw [← hhull] at hbounds
    omega
  have hbehind : behind = [] := by
    refine List.eq_nil_iff_forall_not_mem.2 fun t ht => ?_
    have hnext := h.stop_le (List.mem_append_right before hlast) ht
    have hforward := h.forward t (by simp [ht])
    have hbounds := h.hull_le (t := t) (by simp [ht])
    rw [← hhull] at hbounds
    omega
  rw [hbefore, hbehind, List.nil_append, List.append_nil]

end

/-! ### Slices of a text -/

section

variable {source : String} {before us behind : List Token} {t : Token}

/-- The slice of a text in three parts that covers the second one. -/
theorem slice_eq {xs ys zs : List Char} {s : Span} (hsource : source.toList = xs ++ (ys ++ zs))
    (hs : s = ⟨byteLength xs, byteLength xs + byteLength ys⟩) :
    s.slice source = String.ofList ys := by
  rw [hs, Span.slice, hsource, Span.cut?_append, Option.getD_some]

/-- The text before a token has the tokens before it. -/
theorem lex_before (h : lex source = before ++ t :: behind) :
    lex ((Span.mk 0 t.span.start).slice source) = before := by
  have hlaid := lexFrom_laid 0 source.toList
  have horder := lexFrom_inOrder 0 source.toList
  rw [← lex, h] at hlaid horder
  obtain ⟨xs, ys, hsource, hbytes⟩ := (hlaid.cut?_eq (t := t) (by simp)).1.start
  have hparts : source.toList = [] ++ (xs ++ ys) := hsource
  have hslice : (Span.mk 0 t.span.start).slice source = String.ofList xs :=
    slice_eq hparts (by simp [hbytes])
  have hlex : lexFrom 0 (xs ++ ys) = before ++ t :: behind := hsource ▸ h
  have hsplit := lexFrom_parts hlex ?_ ?_
  · rw [hslice, lex, String.toList_ofList]
    exact hsplit.1
  · intro u hu
    rw [Nat.zero_add, hbytes]
    exact horder.stop_le hu (.head _)
  · intro v hv
    rw [Nat.zero_add, hbytes]
    exact (horder.right.hull_le hv).1

/-- The text under the hull of tokens that stand together has these tokens. -/
theorem lex_slice (h : lex source = before ++ (us ++ behind)) (hne : us ≠ []) :
    (lex ((hull us).slice source)).map (shift (hull us).start) = us := by
  have hlaid := lexFrom_laid 0 source.toList
  have horder := lexFrom_inOrder 0 source.toList
  rw [← lex, h] at hlaid horder
  have hus : InOrder us := horder.segment ⟨before, behind, by simp⟩
  obtain ⟨first, hfirst, hstart⟩ := exists_mem_start hne
  obtain ⟨last, hlast, hstop⟩ := exists_mem_stop hne
  obtain ⟨xs, ys, hsource, hxs⟩ := (hlaid.cut?_eq (t := first) (by simp [hfirst])).1.start
  obtain ⟨upto, zs, hsource', hupto⟩ := (hlaid.cut?_eq (t := last) (by simp [hlast])).1.stop
  have hforward := hus.forward last hlast
  have hbounds := hus.hull_le hlast
  obtain ⟨mid, rfl⟩ := Text.prefix_of_byteLength_le (hsource.symm.trans hsource') (by omega)
  rw [Text.byteLength_append] at hupto
  rw [List.append_assoc] at hsource'
  have hhull : hull us = ⟨byteLength xs, byteLength xs + byteLength mid⟩ := by
    rw [hxs, ← hxs, hupto, hxs, ← hstart, ← hstop]
  have hlex : lexFrom 0 (xs ++ (mid ++ zs)) = before ++ (us ++ behind) := hsource' ▸ h
  have hrest := (lexFrom_parts hlex ?_ ?_).2
  · have hmid := (lexFrom_parts hrest ?_ ?_).1
    · rw [slice_eq hsource' hhull, lex, String.toList_ofList, ← lexFrom_shift, hhull]
      exact hmid
    · intro u hu
      have hlast := (hus.hull_le hu).2
      rw [hstop] at hlast
      omega
    · intro v hv
      have hlast := (horder.segment ⟨before, [], by simp⟩).stop_le hlast hv
      omega
  · intro u hu
    have hfirst := horder.stop_le hu (List.mem_append_left behind hfirst)
    omega
  · intro v hv
    have hfirst := (horder.right.hull_le hv).1
    rw [← hull_start_eq (List.prefix_append us behind) hne] at hfirst
    omega

end

end Token

end EventSheet
