import EventSheet.Expr.Parser

/-!
# Brackets among tokens

Which brackets are open behind tokens that need not be balanced. Parentheses and square brackets
count alike, and a closing bracket closes the last open one: it is the partner of an opening bracket
when all brackets between them have partners there, `Token.Paired`. Tokens leave a bracket open when
none of them is its partner, `Token.LeavesOpen`. A level runs on to the first boundary that no
bracket of the level encloses or to the end of the text, `Token.EndsLevel`.

When tokens are taken one by one, the number of the brackets that are open says it all:
`Token.Descent.leavesOpen_iff`.
-/

namespace EventSheet

/-- Whether a token of the kind opens a bracket, of any form. -/
def TokenKind.opens : TokenKind → Bool
  | .openParen | .openBracket => true
  | _ => false

/-- Whether a token of the kind closes a bracket, of any form. -/
def TokenKind.closes : TokenKind → Bool
  | .closeParen | .closeBracket => true
  | _ => false

theorem TokenKind.opens_iff {k : TokenKind} :
    k.opens = true ↔ k = .openParen ∨ k = .openBracket := by
  cases k <;> simp [opens]

theorem TokenKind.closes_iff {k : TokenKind} :
    k.closes = true ↔ k = .closeParen ∨ k = .closeBracket := by
  cases k <;> simp [closes]

theorem TokenKind.opens_of_closes {k : TokenKind} (h : k.closes = true) : k.opens = false := by
  cases k <;> first | rfl | exact nomatch h

theorem TokenKind.isBoundary_of_closes {k : TokenKind} (h : k.closes = true) :
    k.isBoundary = true := by
  cases k <;> first | rfl | exact nomatch h

namespace Token

/-- Tokens in which every bracket has its partner. -/
inductive Paired : List Token → Prop
  | nil : Paired []
  | cons {t : Token} {us : List Token} : t.kind.opens = false → t.kind.closes = false →
      Paired us → Paired (t :: us)
  | bracket {o c : Token} {us vs : List Token} : o.kind.opens = true → c.kind.closes = true →
      Paired us → Paired vs → Paired (o :: (us ++ c :: vs))

/-- Whether none of the tokens closes a bracket that is opened right before them. -/
def StaysOpen (us : List Token) : Prop :=
  ∀ inside c rest, us = inside ++ c :: rest → c.kind.closes = true → ¬ Paired inside

/-- Whether one of the tokens opens a bracket that no other one closes. -/
def LeavesOpen (us : List Token) : Prop :=
  ∃ before o rest, us = before ++ o :: rest ∧ o.kind.opens = true ∧ StaysOpen rest

/-- Whether a token of the kind ends the level that begins with the tokens before it. The end of the
text always does; a closing bracket or a comma does when no bracket of the level encloses it. -/
def EndsLevel (before : List Token) (k : TokenKind) : Prop :=
  k = .eof ∨ k.isBoundary = true ∧ ¬ LeavesOpen before

/-- Whether none of the tokens ends the level that begins with them. -/
def StaysInLevel (us : List Token) : Prop :=
  ∀ before t, before ++ [t] <+: us → ¬ EndsLevel before t.kind

/-- Behind the tokens as many of their brackets are open, and all that they close are theirs. -/
inductive Descent : Nat → List Token → Prop
  | level {us : List Token} : Paired us → Descent 0 us
  | down {n : Nat} {o : Token} {us vs : List Token} : Descent n us → o.kind.opens = true →
      Paired vs → Descent (n + 1) (us ++ o :: vs)

section

variable {t o c : Token} {us vs ts before rest : List Token} {k : TokenKind} {n : Nat}

/-! ### Partners -/

theorem Paired.append (h : Paired us) (h' : Paired vs) : Paired (us ++ vs) := by
  induction h with
  | nil => exact h'
  | cons ho hc _ ih => exact .cons ho hc ih
  | bracket ho hc hin _ _ ih =>
    rw [List.cons_append, List.append_assoc, List.cons_append]
    exact .bracket ho hc hin ih

theorem Paired.single (ho : t.kind.opens = false) (hc : t.kind.closes = false) : Paired [t] :=
  .cons ho hc .nil

/-- A bracket that is opened among paired tokens is closed among them. -/
theorem Paired.exists_partner (h : Paired us) (hus : us = before ++ o :: rest)
    (ho : o.kind.opens = true) :
    ∃ inside c after, rest = inside ++ c :: after ∧ c.kind.closes = true ∧ Paired inside := by
  induction h generalizing before rest with
  | nil => exact absurd hus.symm (by simp)
  | @cons t us hto _ _ ih =>
    rcases List.cons_eq_append_iff.1 hus with ⟨-, hhead⟩ | ⟨before, -, hus⟩
    · rw [(List.cons.inj hhead).1, hto] at ho
      exact nomatch ho
    · exact ih hus
  | @bracket o' c us vs _ hc hin _ ihin ih =>
    rcases List.cons_eq_append_iff.1 hus with ⟨-, hhead⟩ | ⟨before, -, hus⟩
    · exact ⟨us, c, vs, (List.cons.inj hhead).2, hc, hin⟩
    rcases List.append_eq_append_iff.1 hus with ⟨ws, -, hvs⟩ | ⟨ws, hbefore, hseam⟩
    · -- the bracket stands behind the partner of the first one
      rcases List.cons_eq_append_iff.1 hvs with ⟨-, hhead⟩ | ⟨ws, -, hvs⟩
      · rw [(List.cons.inj hhead).1, TokenKind.opens_of_closes hc] at ho
        exact nomatch ho
      · exact ih hvs
    · rcases List.cons_eq_append_iff.1 hseam with ⟨-, hhead⟩ | ⟨ws, rfl, hrest⟩
      · rw [← (List.cons.inj hhead).1, TokenKind.opens_of_closes hc] at ho
        exact nomatch ho
      · obtain ⟨inside, d, after, rfl, hd, hinside⟩ := ihin hbefore
        refine ⟨inside, d, after ++ c :: vs, ?_, hd, hinside⟩
        rw [hrest, List.append_assoc, List.cons_append]

/-- How many brackets are open behind the tokens when `n` are open before them, unless a closing one
finds none. -/
def openBehind : Nat → List Token → Option Nat
  | n, [] => some n
  | n, t :: ts =>
    if t.kind.opens then openBehind (n + 1) ts
    else if t.kind.closes then
      match n with
      | 0 => none
      | n + 1 => openBehind n ts
    else openBehind n ts

theorem Paired.openBehind_append (h : Paired us) (n : Nat) (rest : List Token) :
    openBehind n (us ++ rest) = openBehind n rest := by
  induction h generalizing n rest with
  | nil => rfl
  | cons ho hc _ ih => simp [openBehind, ho, hc, ih]
  | bracket ho hc _ _ ihin ih =>
    simp [openBehind, ho, hc, TokenKind.opens_of_closes hc, ihin, ih]

theorem Paired.staysOpen (h : Paired us) : StaysOpen us := by
  intro inside c rest hus hc hinside
  have hall : openBehind 0 (us ++ []) = some 0 := h.openBehind_append 0 []
  rw [List.append_nil, hus, hinside.openBehind_append, openBehind] at hall
  simp [hc, TokenKind.opens_of_closes hc] at hall

theorem Paired.not_leavesOpen (h : Paired us) : ¬ LeavesOpen us := by
  rintro ⟨before, o, rest, hus, ho, hstays⟩
  obtain ⟨inside, c, after, hrest, hc, hinside⟩ := h.exists_partner hus ho
  exact hstays inside c after hrest hc hinside

/-! ### Open brackets -/

theorem Descent.append_paired (h : Descent n us) (h' : Paired vs) : Descent n (us ++ vs) := by
  cases h with
  | level hus => exact .level (hus.append h')
  | down hus ho hws =>
    rw [List.append_assoc, List.cons_append]
    exact .down hus ho (hws.append h')

theorem Descent.opening (h : Descent n us) (ho : t.kind.opens = true) :
    Descent (n + 1) (us ++ [t]) :=
  .down h ho .nil

/-- A closing bracket is the partner of the last one that is open. -/
theorem Descent.closing (h : Descent (n + 1) us) (hc : t.kind.closes = true) :
    Descent n (us ++ [t]) := by
  cases h with
  | @down _ o us vs hus ho hvs =>
    have hpair : Paired (o :: (vs ++ [t])) := .bracket ho hc hvs .nil
    rw [List.append_assoc, List.cons_append]
    exact hus.append_paired hpair

/-- Brackets are left open exactly when their number is not zero. -/
theorem Descent.leavesOpen_iff (h : Descent n us) : LeavesOpen us ↔ 0 < n := by
  cases h with
  | level hus => exact iff_of_false hus.not_leavesOpen (Nat.lt_irrefl 0)
  | down _ ho hvs => exact iff_of_true ⟨_, _, _, rfl, ho, hvs.staysOpen⟩ (Nat.succ_pos _)

/-! ### Levels -/

theorem endsLevel_iff (h : Descent n us) :
    EndsLevel us k ↔ k = .eof ∨ k.isBoundary = true ∧ n = 0 := by
  rw [EndsLevel, h.leavesOpen_iff, Nat.not_lt, Nat.le_zero]

/-- A level ends at a closing bracket, at a comma or with the text. -/
theorem EndsLevel.mem (h : EndsLevel us k) : k ∈ [.closeParen, .closeBracket, .comma, .eof] := by
  rcases h with rfl | ⟨hboundary, -⟩
  · decide
  · revert hboundary
    cases k <;> decide

theorem StaysInLevel.nil : StaysInLevel [] := by
  intro before t hbefore
  exact absurd (List.prefix_nil.1 hbefore) (by simp)

theorem StaysInLevel.concat (h : StaysInLevel us) (ht : ¬ EndsLevel us t.kind) :
    StaysInLevel (us ++ [t]) := by
  intro before u hbefore
  rcases List.prefix_concat_iff.1 hbefore with heq | hbefore
  · obtain ⟨rfl, rfl⟩ := List.append_singleton_inj.1 heq
    exact ht
  · exact h before u hbefore

/-- What stays in a level goes no further than to its end. -/
theorem StaysInLevel.prefix_of_endsLevel (h : StaysInLevel vs) (hvs : vs <+: us ++ ts)
    (hend : ∀ t rest, ts = t :: rest → EndsLevel us t.kind) : vs <+: us := by
  rcases List.prefix_or_prefix_of_prefix hvs (List.prefix_append us ts) with hle | ⟨ws, rfl⟩
  · exact hle
  cases ws with
  | nil => simp
  | cons t ws =>
    obtain ⟨rest, hrest⟩ := (List.prefix_append_right_inj us).1 hvs
    have hfirst : us ++ [t] <+: us ++ t :: ws := ⟨ws, by simp⟩
    exact absurd (hend t (ws ++ rest) hrest.symm) (h us t hfirst)

end

end Token

end EventSheet
