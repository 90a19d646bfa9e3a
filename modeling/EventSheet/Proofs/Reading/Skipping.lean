import EventSheet.Proofs.Reading.Course
import EventSheet.Proofs.Syntax.Concrete

/-!
# Skipping a level

Past the nesting limit reading skips to the end of the level. The tokens of an expression are
balanced, so that a skip that starts before one passes over all of it: `Concrete.In.balanced`. The
end of a level is at a boundary, where no operator goes on: `levelEnd_cases`.
-/

namespace EventSheet

/-- The tokens that are left when the current level is skipped. -/
def levelEnd (ts : List Token) : List Token := ts.drop (levelRun 0 ts).length

/-- Whether a skip passes over the tokens, however many brackets are open before them. -/
def Balanced (us : List Token) : Prop :=
  ∀ (opened : Nat) (rest : List Token), levelRun opened (us ++ rest) = us ++ levelRun opened rest

/-- Whether a skip passes over the tokens once a bracket is open. -/
def Enclosed (us : List Token) : Prop :=
  ∀ (opened : Nat) (rest : List Token),
    levelRun (opened + 1) (us ++ rest) = us ++ levelRun (opened + 1) rest

/-- The kinds of tokens that a skip takes for themselves. -/
def TokenKind.isPlain : TokenKind → Bool
  | .eof | .openParen | .closeParen | .openBracket | .closeBracket | .comma => false
  | _ => true

theorem levelRun_plain {t : Token} (ht : t.kind.isPlain = true) (opened : Nat) (ts : List Token) :
    levelRun opened (t :: ts) = t :: levelRun opened ts := by
  rw [levelRun]
  cases hk : t.kind <;> simp_all [TokenKind.isPlain]

theorem levelRun_open {t : Token} (ht : t.kind = .openParen ∨ t.kind = .openBracket)
    (opened : Nat) (ts : List Token) :
    levelRun opened (t :: ts) = t :: levelRun (opened + 1) ts := by
  rcases ht with ht | ht <;> rw [levelRun, ht]

theorem levelRun_close {t : Token} (ht : t.kind = .closeParen ∨ t.kind = .closeBracket)
    (opened : Nat) (ts : List Token) :
    levelRun (opened + 1) (t :: ts) = t :: levelRun opened ts := by
  rcases ht with ht | ht <;> rw [levelRun, ht] <;> simp

theorem levelRun_comma {t : Token} (ht : t.kind = .comma) (opened : Nat) (ts : List Token) :
    levelRun (opened + 1) (t :: ts) = t :: levelRun (opened + 1) ts := by
  rw [levelRun, ht]
  simp

theorem levelRun_boundary {t : Token} (ht : t.kind.isBoundary = true) (ts : List Token) :
    levelRun 0 (t :: ts) = [] := by
  rw [levelRun]
  cases hk : t.kind <;> simp_all [TokenKind.isBoundary]

theorem levelEnd_boundary {t : Token} (ht : t.kind.isBoundary = true) (ts : List Token) :
    levelEnd (t :: ts) = t :: ts := by
  rw [levelEnd, levelRun_boundary ht]
  rfl

/-- However many brackets are open, a skip stops at a boundary or takes all tokens. -/
theorem drop_levelRun (opened : Nat) (ts : List Token) :
    ts.drop (levelRun opened ts).length = [] ∨
      ∃ t us, ts.drop (levelRun opened ts).length = t :: us ∧ t.kind.isBoundary = true := by
  induction ts generalizing opened with
  | nil => exact .inl rfl
  | cons t ts ih =>
    unfold levelRun
    split
    next hk => exact .inr ⟨t, ts, rfl, by rw [hk]; rfl⟩
    · exact ih (opened + 1)
    · exact ih (opened + 1)
    next hk =>
      split
      · exact .inr ⟨t, ts, rfl, by rw [hk]; rfl⟩
      · exact ih (opened - 1)
    next hk =>
      split
      · exact .inr ⟨t, ts, rfl, by rw [hk]; rfl⟩
      · exact ih (opened - 1)
    next hk =>
      split
      · exact .inr ⟨t, ts, rfl, by rw [hk]; rfl⟩
      · exact ih opened
    · exact ih opened

/-- A level ends at a boundary or with the text. -/
theorem levelEnd_cases (ts : List Token) :
    levelEnd ts = [] ∨ ∃ t us, levelEnd ts = t :: us ∧ t.kind.isBoundary = true :=
  drop_levelRun 0 ts

theorem tooDeep_tokens (r : Reader) : (tooDeep r).2.tokens = levelEnd r.tokens := by
  simp [tooDeep, Reader.fail, levelEnd, Reader.skip_tokens]

/-! ### Balanced tokens -/

theorem Balanced.nil : Balanced [] := fun _ _ => rfl

theorem Balanced.enclosed {us : List Token} (h : Balanced us) : Enclosed us :=
  fun opened rest => h (opened + 1) rest

theorem Balanced.append {us vs : List Token} (h : Balanced us) (h' : Balanced vs) :
    Balanced (us ++ vs) := by
  intro opened rest
  rw [List.append_assoc, h, h', List.append_assoc]

theorem Enclosed.append {us vs : List Token} (h : Enclosed us) (h' : Enclosed vs) :
    Enclosed (us ++ vs) := by
  intro opened rest
  rw [List.append_assoc, h, h', List.append_assoc]

theorem Balanced.cons {t : Token} {us : List Token} (ht : t.kind.isPlain = true)
    (h : Balanced us) : Balanced (t :: us) := by
  intro opened rest
  rw [List.cons_append, levelRun_plain ht, h, List.cons_append]

theorem Enclosed.cons_comma {t : Token} {us : List Token} (ht : t.kind = .comma)
    (h : Enclosed us) : Enclosed (t :: us) := by
  intro opened rest
  rw [List.cons_append, levelRun_comma ht, h, List.cons_append]

/-- Brackets of any two forms balance what they enclose. -/
theorem Enclosed.balanced {o c : Token} {us : List Token}
    (ho : o.kind = .openParen ∨ o.kind = .openBracket)
    (hc : c.kind = .closeParen ∨ c.kind = .closeBracket) (h : Enclosed us) :
    Balanced (o :: (us ++ [c])) := by
  intro opened rest
  rw [List.cons_append, levelRun_open ho, List.append_assoc, h, List.singleton_append,
    levelRun_close hc, List.cons_append, List.append_assoc, List.singleton_append]

theorem Balanced.levelEnd_append {us : List Token} (h : Balanced us) (rest : List Token) :
    levelEnd (us ++ rest) = levelEnd rest := by
  rw [levelEnd, h, List.length_append, ← List.drop_drop, List.drop_left, levelEnd]

theorem Operator.isPlain_kind (o : Operator) : o.kind.isPlain = true := by
  cases o <;> rfl

theorem Sign.isPlain_kind (s : Sign) : s.kind.isPlain = true := by
  cases s <;> rfl

theorem Head.Spelled.balanced {h : Head} (hh : h.Spelled) : Balanced h.tokens := by
  cases h with
  | free f => exact .cons (by rw [show f.kind = _ from hh]; rfl) .nil
  | onObject o d f =>
    obtain ⟨ho, hd, hf⟩ := hh
    exact .cons (by rw [ho]; rfl) (.cons (by rw [hd]; rfl) (.cons (by rw [hf]; rfl) .nil))
  | onBehavior o d b c f =>
    obtain ⟨ho, hd, hb, hc, hf⟩ := hh
    exact .cons (by rw [ho]; rfl) (.cons (by rw [hd]; rfl) (.cons (by rw [hb]; rfl)
      (.cons (by rw [hc]; rfl) (.cons (by rw [hf]; rfl) .nil))))

mutual

/-- The tokens of an expression are balanced. -/
theorem Concrete.In.balanced : ∀ {c : Concrete} {l : Layer}, c.In l → Balanced c.tokens
  | .number t, _, h | .string t, _, h | .name t, _, h => by
    rw [Concrete.In] at h
    exact .cons (by rw [h]; rfl) .nil
  | .group o e u, _, h => by
    rw [Concrete.In] at h
    exact h.2.1.balanced.enclosed.balanced (.inl h.1) (.inl h.2.2)
  | .signed s t e, _, h => by
    rw [Concrete.In] at h
    exact .cons (by rw [h.2.1]; exact s.isPlain_kind) h.2.2.balanced
  | .operation o t a b, _, h => by
    rw [Concrete.In] at h
    exact h.2.2.1.balanced.append (.cons (by rw [h.2.1]; exact o.isPlain_kind) h.2.2.2.balanced)
  | .call head o u, _, h => by
    rw [Concrete.In] at h
    exact h.1.balanced.append (Balanced.nil.enclosed.balanced (.inl h.2.1) (.inl h.2.2))
  | .callWith head o e es u, _, h => by
    rw [Concrete.In] at h
    obtain ⟨hh, ho, he, hes, hu⟩ := h
    have hin := (he.balanced.enclosed.append hes.enclosed).balanced (.inl ho) (.inl hu)
    rw [List.append_assoc] at hin
    exact hh.balanced.append hin
  | .access n as, _, h => by
    rw [Concrete.In] at h
    exact .cons (by rw [h.1]; rfl) h.2.2.balanced

/-- Arguments are balanced but for the commas between them. -/
theorem Arguments.InSum.enclosed : ∀ {as : Arguments}, as.InSum → Enclosed as.tokens
  | .nil, _ => Balanced.nil.enclosed
  | .cons m e as, h => by
    rw [Arguments.InSum] at h
    exact .cons_comma h.1 (h.2.1.balanced.enclosed.append h.2.2.enclosed)

theorem Accessors.InSum.balanced : ∀ {as : Accessors}, as.InSum → Balanced as.tokens
  | .nil, _ => .nil
  | .child d n as, h => by
    rw [Accessors.InSum] at h
    exact .cons (by rw [h.1]; rfl) (.cons (by rw [h.2.1]; rfl) h.2.2.balanced)
  | .index o e u as, h => by
    rw [Accessors.InSum] at h
    obtain ⟨ho, he, hu, has⟩ := h
    have hin := (he.balanced.enclosed.balanced (.inr ho) (.inr hu)).append has.balanced
    rwa [List.cons_append, List.append_assoc, List.singleton_append] at hin

end

end EventSheet
