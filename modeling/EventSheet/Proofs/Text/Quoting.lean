import EventSheet.Text.Hexadecimal
import EventSheet.Text.Quoted
import Mathlib.Tactic.SplitIfs

/-!
# Quoted texts can be read back

What is written between the quotes says which text it stands for, since no escape is the beginning
of another one or of a character that stands for itself, and the code point in an escape is closed
by a brace: `quoted_injective`. No break stands between the quotes.
-/

namespace EventSheet.Text

/-- Two texts that begin with a run of characters and go on with none of them agree in the run and
in what follows it. -/
theorem append_inj_of_run {p : Char → Bool} {xs xs' ys ys' : List Char}
    (hxs : ∀ c ∈ xs, p c = true) (hxs' : ∀ c ∈ xs', p c = true)
    (hys : ∀ c ∈ ys.head?, p c = false) (hys' : ∀ c ∈ ys'.head?, p c = false)
    (h : xs ++ ys = xs' ++ ys') : xs = xs' ∧ ys = ys' := by
  have hrun : ∀ {xs ys : List Char}, (∀ c ∈ xs, p c = true) → (∀ c ∈ ys.head?, p c = false) →
      (xs ++ ys).takeWhile p = xs := by
    intro xs ys hxs hys
    rw [List.takeWhile_append_of_pos hxs]
    cases ys with
    | nil => simp
    | cons y ys => simp [hys y rfl]
  have hxs : xs = xs' := by rw [← hrun hxs hys, h, hrun hxs' hys']
  subst hxs
  exact ⟨rfl, List.append_cancel_left h⟩

/-! ### Code points -/

/-- The digits of a code point are read back. -/
theorem hexNumber?_toDigits (n : Nat) : hexNumber? (Nat.toDigits 16 n) = some n := by
  have hdigit : ∀ k < 16, hexValue? (Nat.digitChar k) = some k := by decide
  induction n using Nat.strongRecOn with
  | ind n ih =>
    by_cases hsmall : n < 16
    · rw [Nat.toDigits_of_lt_base hsmall]
      simp [hexNumber?, hdigit n hsmall]
    · have hrest := ih (n / 16) (by omega)
      rw [Nat.toDigits_of_base_le (by decide) (Nat.le_of_not_lt hsmall)]
      simp only [hexNumber?, List.foldlM_append] at hrest ⊢
      rw [hrest]
      simp [hdigit (n % 16) (by omega)]
      omega

/-- Digits of which a number is read are hexadecimal digits, all of them. -/
theorem isSome_hexValue?_of_mem {ds : List Char} {m n : Nat}
    (h : ds.foldlM (fun n c => (hexValue? c).map (16 * n + ·)) m = some n) :
    ∀ c ∈ ds, (hexValue? c).isSome = true := by
  induction ds generalizing m with
  | nil => exact nofun
  | cons d ds ih =>
    rw [List.foldlM_cons] at h
    obtain ⟨k, hk, hds⟩ := Option.bind_eq_some_iff.1 h
    refine List.forall_mem_cons.2 ⟨?_, ih hds⟩
    obtain ⟨value, hvalue, -⟩ := Option.map_eq_some_iff.1 hk
    rw [hvalue]
    rfl

theorem toDigits_injective {m n : Nat} (h : Nat.toDigits 16 m = Nat.toDigits 16 n) : m = n := by
  have hvalue := hexNumber?_toDigits m
  rw [h, hexNumber?_toDigits] at hvalue
  exact (Option.some.inj hvalue).symm

/-! ### Escapes -/

/-- The characters with a short escape, and the character that stands behind the backslash. -/
def shortEscapes : List (Char × Char) :=
  [('"', '"'), ('\\', '\\'), ('\n', 'n'), ('\r', 'r'), ('\t', 't'), ('\x00', '0')]

/-- How a character is written: as itself, as a short escape or as its code point. -/
inductive Escaped (c : Char) : List Char → Prop
  | self : (∀ d, (c, d) ∉ shortEscapes) → Escaped c [c]
  | short {d : Char} : (c, d) ∈ shortEscapes → Escaped c ['\\', d]
  | codePoint : Escaped c ('\\' :: 'u' :: '\x7b' :: (Nat.toDigits 16 c.toNat ++ ['\x7d']))

theorem escaped_escape (c : Char) : Escaped c (escape c) := by
  unfold escape
  split_ifs with hquote hbackslash hbreak hreturn htab hnull
  · exact .short (by simp [shortEscapes, hquote])
  · exact .short (by simp [shortEscapes, hbackslash])
  · exact .short (by simp [shortEscapes, hbreak])
  · exact .short (by simp [shortEscapes, hreturn])
  · exact .short (by simp [shortEscapes, htab])
  · exact .short (by simp [shortEscapes, hnull])
  · exact .codePoint
  · exact .self (by simp [shortEscapes, *])

/-- What stands for itself is no backslash. -/
theorem ne_backslash {c : Char} (h : ∀ d, (c, d) ∉ shortEscapes) : c ≠ '\\' := by
  rintro rfl
  exact h '\\' (by simp [shortEscapes])

theorem codePoint_append_inj {c d : Char} {xs ys : List Char}
    (h : Nat.toDigits 16 c.toNat ++ '\x7d' :: xs = Nat.toDigits 16 d.toNat ++ '\x7d' :: ys) :
    c = d ∧ xs = ys := by
  have hdigits : ∀ n, ∀ e ∈ Nat.toDigits 16 n, (hexValue? e).isSome = true :=
    fun n => isSome_hexValue?_of_mem (hexNumber?_toDigits n)
  have hbrace : ∀ zs : List Char, ∀ e ∈ ('\x7d' :: zs).head?, (hexValue? e).isSome = false := by
    rintro zs e ⟨⟩
    decide
  obtain ⟨hnumber, hrest⟩ :=
    append_inj_of_run (hdigits c.toNat) (hdigits d.toNat) (hbrace xs) (hbrace ys) h
  exact ⟨Char.toNat_inj.1 (toDigits_injective hnumber), (List.cons.inj hrest).2⟩

/-- No escape is the beginning of what another character is written as. -/
theorem escape_append_inj {c d : Char} {xs ys : List Char} (h : escape c ++ xs = escape d ++ ys) :
    c = d ∧ xs = ys := by
  have hshort : ∀ p ∈ shortEscapes, ∀ q ∈ shortEscapes, p.2 = q.2 → p = q := by decide
  have hu : ∀ p ∈ shortEscapes, p.2 ≠ 'u' := by decide
  have hc := escaped_escape c
  have hd := escaped_escape d
  generalize escape c = us at hc h
  generalize escape d = vs at hd h
  cases hc with
  | self hc =>
    cases hd with
    | self hd => exact List.cons.inj h
    | short | codePoint => exact absurd (List.cons.inj h).1 (ne_backslash hc)
  | @short c' hc =>
    cases hd with
    | self hd => exact absurd (List.cons.inj h).1.symm (ne_backslash hd)
    | @short d' hd =>
      obtain ⟨hsame, hrest⟩ := List.cons.inj (List.cons.inj h).2
      exact ⟨congrArg Prod.fst (hshort _ hc _ hd hsame), hrest⟩
    | codePoint => exact absurd (List.cons.inj (List.cons.inj h).2).1 (hu _ hc)
  | codePoint =>
    cases hd with
    | self hd => exact absurd (List.cons.inj h).1.symm (ne_backslash hd)
    | short hd => exact absurd (List.cons.inj (List.cons.inj h).2).1.symm (hu _ hd)
    | codePoint =>
      simp only [List.cons_append, List.append_assoc, List.nil_append, List.cons.injEq,
        true_and] at h
      exact codePoint_append_inj h

/-- A text is read back from between its quotes. -/
theorem quoted_injective {text text' : String} (h : quoted text = quoted text') : text = text' := by
  have hbody : text.toList.flatMap escape ++ ['"'] = text'.toList.flatMap escape ++ ['"'] :=
    (List.cons.inj (String.ofList_inj.1 h)).2
  have hbody := List.append_cancel_right hbody
  refine String.toList_inj.1 ?_
  generalize text.toList = cs at hbody ⊢
  generalize text'.toList = ds at hbody ⊢
  have hne : ∀ c, escape c ≠ [] := by
    intro c hnil
    have hescaped := escaped_escape c
    rw [hnil] at hescaped
    exact nomatch hescaped
  induction cs generalizing ds with
  | nil =>
    cases ds with
    | nil => rfl
    | cons d ds => exact absurd (List.append_eq_nil_iff.1 hbody.symm).1 (hne d)
  | cons c cs ih =>
    cases ds with
    | nil => exact absurd (List.append_eq_nil_iff.1 hbody).1 (hne c)
    | cons d ds =>
      obtain ⟨rfl, hrest⟩ := escape_append_inj hbody
      rw [ih ds hrest]

/-- No break stands in a quoted text. -/
theorem break_not_mem_quoted (text : String) : '\n' ∉ (quoted text).toList := by
  have hescape : ∀ c, '\n' ∉ escape c := by
    intro c hbreak
    have hescaped := escaped_escape c
    generalize escape c = us at hescaped hbreak
    cases hescaped with
    | self hc =>
      rw [← List.mem_singleton.1 hbreak] at hc
      exact hc 'n' (by simp [shortEscapes])
    | short hc =>
      have hshort : ∀ p ∈ shortEscapes, p.2 ≠ '\n' := by decide
      simp only [List.mem_cons, List.not_mem_nil, or_false] at hbreak
      rcases hbreak with hbreak | hbreak
      · exact absurd hbreak (by decide)
      · exact hshort _ hc hbreak.symm
    | codePoint =>
      have hdigit := isSome_hexValue?_of_mem (hexNumber?_toDigits c.toNat) '\n'
      simp only [List.mem_cons, List.mem_append, List.not_mem_nil, or_false] at hbreak
      rcases hbreak with hbreak | hbreak | hbreak | hbreak | hbreak
      all_goals first
        | exact absurd hbreak (by decide)
        | exact absurd (hdigit hbreak) (by decide)
  rw [quoted, String.toList_ofList]
  simp [hescape]

end EventSheet.Text
