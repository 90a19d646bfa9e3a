import EventSheet.Token.Lexer

/-!
# Positions of tokens

A position of a text is a boundary when it cuts no character, and a span fits a text when it runs
forward between two boundaries. The tokens of a text are laid out in it one after another with
blanks between them, each at the span where its own text stands: `Token.lexFrom_laid`.
-/

namespace EventSheet

open Text (byteLength)

/-! ### Boundaries -/

/-- A position that cuts no character of a text: as many bytes as the text begins with. -/
def Text.IsBoundary (text : List Char) (n : Nat) : Prop :=
  ∃ before after, text = before ++ after ∧ byteLength before = n

/-- A span that runs forward within a text and cuts no character at its ends. -/
structure Span.Fits (text : List Char) (s : Span) : Prop where
  ordered : s.start ≤ s.stop
  inside : s.stop ≤ byteLength text
  start : Text.IsBoundary text s.start
  stop : Text.IsBoundary text s.stop

section Boundaries

variable {text : List Char} {m n : Nat}

theorem Text.isBoundary_zero : Text.IsBoundary text 0 := ⟨[], text, rfl, rfl⟩

theorem Text.IsBoundary.le (h : Text.IsBoundary text n) : n ≤ byteLength text := by
  obtain ⟨before, after, rfl, rfl⟩ := h
  rw [Text.byteLength_append]
  exact Nat.le_add_right _ _

/-- The boundaries are the positions from which a text can be read on. -/
theorem Text.isBoundary_iff_dropBytes :
    Text.IsBoundary text n ↔ (Text.dropBytes n text).isSome = true := by
  constructor
  · rintro ⟨before, after, rfl, rfl⟩
    rw [Text.dropBytes_append]
    rfl
  · intro h
    fun_induction Text.dropBytes n text with
    | case1 cs => exact Text.isBoundary_zero
    | case2 => exact nomatch h
    | case3 n c cs hle ih =>
      obtain ⟨before, after, hcs, hlen⟩ := ih h
      refine ⟨c :: before, after, by rw [hcs, List.cons_append], ?_⟩
      rw [Text.byteLength_cons]
      omega
    | case4 => exact nomatch h

instance : Decidable (Text.IsBoundary text n) :=
  decidable_of_iff _ Text.isBoundary_iff_dropBytes.symm

theorem Text.IsBoundary.max (hm : Text.IsBoundary text m) (hn : Text.IsBoundary text n) :
    Text.IsBoundary text (max m n) := by
  rcases Nat.le_total m n with h | h
  · rwa [Nat.max_eq_right h]
  · rwa [Nat.max_eq_left h]

theorem Text.IsBoundary.min (hm : Text.IsBoundary text m) (hn : Text.IsBoundary text n) :
    Text.IsBoundary text (min m n) := by
  rcases Nat.le_total m n with h | h
  · rwa [Nat.min_eq_left h]
  · rwa [Nat.min_eq_right h]

namespace Span

theorem Fits.of_boundaries (hle : m ≤ n) (hm : Text.IsBoundary text m)
    (hn : Text.IsBoundary text n) : Fits text ⟨m, n⟩ :=
  ⟨hle, hn.le, hm, hn⟩

theorem Fits.point (h : Text.IsBoundary text n) : Fits text (point n) :=
  .of_boundaries (Nat.le_refl n) h h

theorem Fits.merge {s t : Span} (hs : Fits text s) (ht : Fits text t) : Fits text (s.merge t) := by
  refine .of_boundaries ?_ (hs.start.min ht.start) (hs.stop.max ht.stop)
  exact Nat.le_trans (Nat.min_le_left _ _) (Nat.le_trans hs.ordered (Nat.le_max_left _ _))

end Span

end Boundaries

/-! ### The end of a text -/

/-- No token is cut from a text that stands for its end. -/
theorem Lexeme.first_kind_ne_eof (c : Char) (cs : List Char) : (first c cs).kind ≠ .eof := by
  have hnumber : ∀ cs, (number cs).kind ≠ .eof := by
    intro cs
    rw [number_kind]
    exact nofun
  have hchar : ∀ k, TokenKind.ofChar? c = some k → k ≠ .eof := by
    rintro k hk rfl
    revert hk
    unfold TokenKind.ofChar?
    split <;> exact nofun
  unfold first
  split
  next k hk => exact hchar k hk
  next =>
    repeat' split
    · exact hnumber _
    · exact nofun
    · exact nofun
    · exact nofun
    · unfold textLiteral
      split <;> exact nofun
    · exact hnumber _
    · exact nofun
    · exact nofun

theorem Token.kind_ne_eof_of_mem_lexFrom {offset : Nat} {cs : List Char} {t : Token}
    (h : t ∈ lexFrom offset cs) : t.kind ≠ .eof := by
  fun_induction lexFrom offset cs with
  | case1 => simp at h
  | case2 offset c cs _ ih => exact ih h
  | case3 offset c cs _ lexeme stop ih =>
    rcases List.mem_cons.1 h with rfl | h
    · exact Lexeme.first_kind_ne_eof c cs
    · exact ih h

/-! ### Tokens in a text -/

/-- Whether the characters are blanks, all of them. -/
def AllBlank (gap : List Char) : Prop := ∀ c ∈ gap, isBlank c = true

instance (gap : List Char) : Decidable (AllBlank gap) :=
  decidable_of_iff (gap.all isBlank = true) List.all_eq_true

@[simp] theorem allBlank_nil : AllBlank [] := nofun

@[simp] theorem allBlank_cons {c : Char} {gap : List Char} :
    AllBlank (c :: gap) ↔ isBlank c = true ∧ AllBlank gap := by
  simp [AllBlank]

/-- The tokens are written one after another in a text whose first character stands at an offset,
with nothing but blanks between them, and each has the span at which its text stands. -/
inductive Token.Laid : Nat → List Char → List Token → Prop
  | blanks {offset : Nat} {gap : List Char} : AllBlank gap → Laid offset gap []
  | token {offset : Nat} {gap text rest : List Char} {t : Token} {ts : List Token} :
      AllBlank gap → text ≠ [] → t.text = String.ofList text →
      t.span = ⟨offset + byteLength gap, offset + byteLength gap + byteLength text⟩ →
      Laid t.span.stop rest ts → Laid offset (gap ++ (text ++ rest)) (t :: ts)

theorem Token.Laid.cons_blank {offset : Nat} {c : Char} {cs : List Char} {ts : List Token}
    (hc : isBlank c = true) (h : Token.Laid (offset + c.utf8Size) cs ts) :
    Token.Laid offset (c :: cs) ts := by
  cases h with
  | blanks hgap => exact .blanks (allBlank_cons.2 ⟨hc, hgap⟩)
  | @token _ gap text rest t ts hgap htext hspelled hspan hrest =>
    rw [← List.cons_append]
    refine .token (allBlank_cons.2 ⟨hc, hgap⟩) htext hspelled ?_ hrest
    rw [hspan, Text.byteLength_cons, Nat.add_assoc offset]

/-- The tokens of a text are laid out in it. -/
theorem Token.lexFrom_laid (offset : Nat) (cs : List Char) :
    Laid offset cs (lexFrom offset cs) := by
  fun_induction lexFrom offset cs with
  | case1 offset => exact .blanks allBlank_nil
  | case2 offset c cs hc ih => exact ih.cons_blank hc
  | case3 offset c cs _ lexeme stop ih =>
    rw [← Lexeme.first_text_append_rest c cs]
    exact .token allBlank_nil (Lexeme.first_text_ne_nil c cs) rfl rfl ih

theorem Text.byteLength_pos {text : List Char} (h : text ≠ []) : 0 < byteLength text := by
  cases text with
  | nil => exact absurd rfl h
  | cons c cs =>
    have hc : 0 < c.utf8Size := c.utf8Size_pos
    rw [Text.byteLength_cons]
    omega

end EventSheet
