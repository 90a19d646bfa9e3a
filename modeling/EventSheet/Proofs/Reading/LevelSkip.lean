import EventSheet.Proofs.Reading.Skipping
import EventSheet.Proofs.Syntax.Brackets
import Mathlib.Computability.StateTransition

/-!
# The loop that skips a level

Past the nesting limit reading skips to the end of the level in a loop that counts the brackets that
are open: `LevelSkip.step` is one iteration. The counter is an integer, and a closing bracket counts
it down without a look at it. At the head of the loop the counter is the number of the brackets that
the tokens taken so far leave open, hence never below zero, and none of these tokens ends the level:
`LevelSkip.Sound`. Every iteration keeps that, and the loop is left exactly where the level ends,
`LevelSkip.Sound.step` and `LevelSkip.Sound.step_eq_none_iff`. It is always left, with the reader
that `tooDeep` goes on with: `LevelSkip.exists_eval`.
-/

namespace EventSheet

open StateTransition (eval Reaches)

/-- The head of the loop that skips a level. -/
structure LevelSkip where
  /-- How many brackets are open. -/
  opened : Int
  reader : Reader

namespace LevelSkip

/-- The loop before its first iteration. -/
def start (r : Reader) : LevelSkip := ⟨0, r⟩

/-- One iteration, which leaves the loop or takes a token. -/
def step (s : LevelSkip) : Option LevelSkip :=
  match s.reader.kind, decide (s.opened = 0) with
  | .eof, _ => none
  | .closeParen, true | .closeBracket, true | .comma, true => none
  | .openParen, _ | .openBracket, _ => some ⟨s.opened + 1, s.reader.advance⟩
  | .closeParen, _ | .closeBracket, _ => some ⟨s.opened - 1, s.reader.advance⟩
  | _, _ => some ⟨s.opened, s.reader.advance⟩

/-- Stands for what was skipped from the place on where the loop began. -/
def stand (s : LevelSkip) (first : Nat) : Expr × Reader :=
  s.reader.fail .nestingTooDeep "nesting too deep" (s.reader.spanFrom (Span.point first))

variable {s s' : LevelSkip} {r : Reader} {t : Token} {ts taken : List Token}

/-! ### One iteration -/

theorem step_eq_none_iff :
    s.step = none ↔
      s.reader.kind = .eof ∨ s.reader.kind.isBoundary = true ∧ s.opened = 0 := by
  unfold step
  cases s.reader.kind <;> by_cases h : s.opened = 0 <;> simp [h, TokenKind.isBoundary]

theorem step_of_opens (h : s.reader.kind.opens = true) :
    s.step = some ⟨s.opened + 1, s.reader.advance⟩ := by
  rcases TokenKind.opens_iff.1 h with hk | hk <;> simp only [step, hk]

theorem step_of_closes (h : s.reader.kind.closes = true) (ho : s.opened ≠ 0) :
    s.step = some ⟨s.opened - 1, s.reader.advance⟩ := by
  rcases TokenKind.closes_iff.1 h with hk | hk <;> simp only [step, hk, decide_eq_false ho]

theorem step_of_other (ho : s.reader.kind.opens = false) (hc : s.reader.kind.closes = false)
    (h : s.step ≠ none) : s.step = some ⟨s.opened, s.reader.advance⟩ := by
  unfold step at h ⊢
  split <;> simp_all [TokenKind.opens, TokenKind.closes]

/-- All that an iteration can do. -/
theorem step_cases (h : s.step = some s') :
    ∃ t ts, s.reader.tokens = t :: ts ∧ s'.reader = s.reader.advance ∧
      (t.kind.opens = true ∧ s'.opened = s.opened + 1 ∨
        t.kind.closes = true ∧ s.opened ≠ 0 ∧ s'.opened = s.opened - 1 ∨
        t.kind.opens = false ∧ t.kind.closes = false ∧ s'.opened = s.opened) := by
  have hne : s.step ≠ none := by simp [h]
  obtain ⟨t, ts, htok, hkind⟩ := Reader.exists_tokens_of_kind rfl
    fun hend => hne (step_eq_none_iff.2 (.inl hend))
  refine ⟨t, ts, htok, ?_⟩
  rw [hkind]
  cases ho : s.reader.kind.opens with
  | true =>
    obtain rfl := Option.some.inj ((step_of_opens ho).symm.trans h)
    exact ⟨rfl, .inl ⟨rfl, rfl⟩⟩
  | false =>
    cases hc : s.reader.kind.closes with
    | true =>
      have hopened : s.opened ≠ 0 := fun hzero =>
        hne (step_eq_none_iff.2 (.inr ⟨TokenKind.isBoundary_of_closes hc, hzero⟩))
      obtain rfl := Option.some.inj ((step_of_closes hc hopened).symm.trans h)
      exact ⟨rfl, .inr (.inl ⟨rfl, hopened, rfl⟩)⟩
    | false =>
      obtain rfl := Option.some.inj ((step_of_other ho hc hne).symm.trans h)
      exact ⟨rfl, .inr (.inr ⟨rfl, rfl, rfl⟩)⟩

/-! ### The whole loop -/

/-- What holds at the head of the loop when the tokens have been taken since it began. -/
structure Sound (r : Reader) (taken : List Token) (s : LevelSkip) : Prop where
  tokens : r.tokens = taken ++ s.reader.tokens
  inLevel : Token.StaysInLevel taken
  counted : ∃ n : Nat, s.opened = n ∧ Token.Descent n taken

theorem Sound.start (r : Reader) : Sound r [] (start r) :=
  ⟨rfl, .nil, 0, rfl, .level .nil⟩

theorem Sound.nonneg (h : Sound r taken s) : 0 ≤ s.opened := by
  obtain ⟨n, hn, -⟩ := h.counted
  omega

/-- The loop is left where the level ends. -/
theorem Sound.step_eq_none_iff (h : Sound r taken s) :
    s.step = none ↔ Token.EndsLevel taken s.reader.kind := by
  obtain ⟨n, hn, hdescent⟩ := h.counted
  rw [LevelSkip.step_eq_none_iff, Token.endsLevel_iff hdescent, hn, Int.natCast_eq_zero]

theorem Sound.step (h : Sound r taken s) (hs : s.step = some s') :
    ∃ t, Sound r (taken ++ [t]) s' := by
  obtain ⟨n, hn, hdescent⟩ := h.counted
  obtain ⟨t, ts, htok, hreader, hcount⟩ := step_cases hs
  -- the loop was not left before the token
  have hends : ¬ Token.EndsLevel taken t.kind := by
    rw [← Reader.kind_eq htok, ← h.step_eq_none_iff, hs]
    nofun
  refine ⟨t, ?_, h.inLevel.concat hends, ?_⟩
  · rw [hreader, Reader.advance_tokens_eq htok, h.tokens, htok, List.append_assoc,
      List.singleton_append]
  · rcases hcount with ⟨ho, hcount⟩ | ⟨hc, hne, hcount⟩ | ⟨ho, hc, hcount⟩
    · exact ⟨n + 1, by omega, hdescent.opening ho⟩
    · obtain ⟨m, rfl⟩ := Nat.exists_eq_succ_of_ne_zero (n := n) (by omega)
      exact ⟨m, by omega, hdescent.closing hc⟩
    · exact ⟨n, by omega, hdescent.append_paired (.single ho hc)⟩

theorem Sound.of_reaches (h : Reaches LevelSkip.step (LevelSkip.start r) s) :
    ∃ taken, Sound r taken s := by
  induction h with
  | refl => exact ⟨[], .start r⟩
  | tail _ hstep ih =>
    obtain ⟨taken, hsound⟩ := ih
    obtain ⟨t, hnext⟩ := hsound.step hstep
    exact ⟨taken ++ [t], hnext⟩

/-- An iteration takes the token that the run of the level begins with. -/
theorem step_levelRun (htok : r.tokens = t :: ts) (n : Nat) :
    step ⟨n, r⟩ = none ∧ levelRun n (t :: ts) = [] ∨
      ∃ m : Nat, step ⟨n, r⟩ = some ⟨m, r.advance⟩ ∧
        levelRun n (t :: ts) = t :: levelRun m ts := by
  have hkind : r.kind = t.kind := Reader.kind_eq htok
  by_cases hend : step ⟨n, r⟩ = none
  · refine .inl ⟨hend, ?_⟩
    rcases step_eq_none_iff.1 hend with heof | ⟨hboundary, hzero⟩
    · rw [levelRun, hkind.symm.trans heof]
    · obtain rfl := Int.natCast_eq_zero.1 hzero
      exact levelRun_boundary (hkind ▸ hboundary) ts
  right
  have heof : t.kind ≠ .eof := fun h => hend (step_eq_none_iff.2 (.inl (hkind.trans h)))
  have hpos : t.kind.isBoundary = true → ∃ m, n = m + 1 := fun h =>
    Nat.exists_eq_succ_of_ne_zero fun hzero =>
      hend (step_eq_none_iff.2 (.inr ⟨hkind ▸ h, by simp [hzero]⟩))
  cases ho : t.kind.opens with
  | true =>
    exact ⟨n + 1, step_of_opens (hkind ▸ ho), levelRun_open (TokenKind.opens_iff.1 ho) n ts⟩
  | false =>
    cases hc : t.kind.closes with
    | true =>
      obtain ⟨m, rfl⟩ := hpos (TokenKind.isBoundary_of_closes hc)
      refine ⟨m, ?_, levelRun_close (TokenKind.closes_iff.1 hc) m ts⟩
      have hstep := step_of_closes (s := ⟨(m + 1 : Nat), r⟩) (hkind ▸ hc)
        (Int.natCast_ne_zero.2 (Nat.succ_ne_zero m))
      rw [hstep, Int.natCast_succ, Int.add_sub_cancel]
    | false =>
      refine ⟨n, step_of_other (hkind ▸ ho) (hkind ▸ hc) hend, ?_⟩
      by_cases hcomma : t.kind = .comma
      · obtain ⟨m, rfl⟩ := hpos (by rw [hcomma]; rfl)
        exact levelRun_comma hcomma m ts
      · refine levelRun_plain ?_ n ts
        cases hk : t.kind <;> simp_all [TokenKind.isPlain, TokenKind.opens, TokenKind.closes]

/-- The loop is left, with the run of the level taken. -/
theorem exists_eval (r : Reader) (n : Nat) :
    ∃ opened, ⟨opened, r.skip (levelRun n r.tokens).length⟩ ∈ eval step ⟨n, r⟩ := by
  induction htok : r.tokens generalizing r n with
  | nil =>
    have hend : step ⟨n, r⟩ = none := step_eq_none_iff.2 (.inl (Reader.kind_eq_eof htok))
    exact ⟨n, StateTransition.mem_eval.2 ⟨.refl, hend⟩⟩
  | cons t ts ih =>
    rcases step_levelRun htok n with ⟨hend, hrun⟩ | ⟨m, hstep, hrun⟩
    · rw [hrun]
      exact ⟨n, StateTransition.mem_eval.2 ⟨.refl, hend⟩⟩
    · obtain ⟨opened, hrest⟩ := ih r.advance m (Reader.advance_tokens_eq htok)
      rw [hrun, StateTransition.reaches_eval (.single hstep)]
      exact ⟨opened, hrest⟩

end LevelSkip

/-- Standing for the rest of a level is what the loop that skips it does. -/
theorem tooDeep_eval (r : Reader) :
    ∃ s ∈ eval LevelSkip.step (LevelSkip.start r), ∃ taken,
      LevelSkip.Sound r taken s ∧ Token.EndsLevel taken s.reader.kind ∧
      tooDeep r = s.stand r.span.start := by
  obtain ⟨opened, hs⟩ := LevelSkip.exists_eval r 0
  obtain ⟨hreaches, hend⟩ := StateTransition.mem_eval.1 hs
  obtain ⟨taken, hsound⟩ := LevelSkip.Sound.of_reaches hreaches
  exact ⟨_, hs, taken, hsound, hsound.step_eq_none_iff.1 hend, rfl⟩

end EventSheet
