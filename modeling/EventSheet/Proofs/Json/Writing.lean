import EventSheet.Proofs.Json.Lexing
import Mathlib.Data.List.TakeWhile

/-!
# What is written of a value

The compact form of a value holds no control characters, whatever texts are in it, so that it stays
on one line: `Json.visible_object`. A natural number is written in digits, and a reader that keeps
all of them reads it back.
-/

namespace EventSheet.Json

/-! ### Characters -/

/-- None of the characters is a control character. -/
def NoControls (cs : List Char) : Prop := ∀ c ∈ cs, 0x20 ≤ c.toNat

@[simp] theorem noControls_nil : NoControls [] := nofun

@[simp] theorem noControls_cons {c : Char} {cs : List Char} :
    NoControls (c :: cs) ↔ 0x20 ≤ c.toNat ∧ NoControls cs :=
  List.forall_mem_cons

@[simp] theorem noControls_append {cs ds : List Char} :
    NoControls (cs ++ ds) ↔ NoControls cs ∧ NoControls ds :=
  List.forall_mem_append

/-- The value is written without control characters. -/
def Visible (j : Json) : Prop := NoControls j.write

theorem le_hexDigit (n : Nat) : 0x20 ≤ (hexDigit n).toNat := by
  have hall : ∀ k < 16, 0x20 ≤ ((Nat.toDigits 16 k).headD '0').toNat := by decide
  exact hall _ (Nat.mod_lt n (by decide))

theorem noControls_escape (c : Char) : NoControls (escape c) := by
  unfold escape
  repeat' split
  case isFalse hlow => simpa using Nat.le_of_not_lt hlow
  all_goals simp [le_hexDigit]

theorem noControls_quote (s : String) : NoControls (quote s) := by
  have hbody : NoControls (s.toList.flatMap escape) := by
    intro x hx
    obtain ⟨c, -, hx⟩ := List.mem_flatMap.1 hx
    exact noControls_escape c x hx
  simp [quote, hbody]

theorem visible_null : null.Visible := by
  simp [Visible, write]

theorem visible_string (s : String) : (string s).Visible := by
  rw [Visible, write]
  exact noControls_quote s

theorem visible_ofOption (s : Option String) : (ofOption s).Visible := by
  cases s with
  | none => exact visible_null
  | some s => exact visible_string s

theorem visible_nat (n : Nat) : (nat n).Visible := by
  rw [Visible, nat, write, Nat.toString_eq_repr, Nat.toList_repr]
  intro c hc
  have hdigit : c.isDigit = true := Nat.isDigit_of_mem_toDigits (by decide) (by decide) hc
  rw [Char.isDigit, Bool.and_eq_true, decide_eq_true_eq] at hdigit
  exact Nat.le_trans (by decide) hdigit.1

theorem visible_array {items : List Json} (h : ∀ j ∈ items, j.Visible) : (array items).Visible := by
  have hitems : NoControls (writeItems items) := by
    induction items with
    | nil => simp [writeItems]
    | cons j items ih =>
      have hrest := ih fun j hj => h j (.tail _ hj)
      have hj : NoControls j.write := h j (.head _)
      cases items with
      | nil => rwa [writeItems]
      | cons k items => simp [writeItems_cons_cons, hj, hrest]
  simp [Visible, write, hitems]

theorem visible_object {members : List Member} (h : ∀ m ∈ members, m.value.Visible) :
    (object members).Visible := by
  have hmembers : NoControls (writeMembers members) := by
    induction members with
    | nil => simp [writeMembers]
    | cons m members ih =>
      have hrest := ih fun m hm => h m (.tail _ hm)
      have hvalue : NoControls m.value.write := h m (.head _)
      cases members with
      | nil =>
        obtain ⟨key, value⟩ := m
        have hvalue : NoControls value.write := hvalue
        simp [writeMembers, noControls_quote, hvalue]
      | cons next members => simp [writeMembers_cons_cons, noControls_quote, hvalue, hrest]
  simp [Visible, write, hmembers]

/-! ### Natural numbers -/

/-- The natural number that a value is written as in digits alone. -/
def nat? : Json → Option Nat
  | number literal =>
    if literal.toList.all Char.isDigit then some (Decimal.digitsValue literal.toList) else none
  | _ => none

@[simp] theorem nat?_nat (n : Nat) : (nat n).nat? = some n := by
  have hdigits : (Nat.toDigits 10 n).all Char.isDigit = true :=
    List.all_eq_true.2 fun c => Nat.isDigit_of_mem_toDigits (by decide) (by decide)
  have hvalue : Decimal.digitsValue (Nat.toDigits 10 n) = n := Nat.ofDigitChars_ten_toDigits
  rw [nat, nat?, Nat.toString_eq_repr, Nat.toList_repr, if_pos hdigits, hvalue]

/-- The digits of a number begin with a zero only where the number is zero. -/
theorem head?_toDigits {n : Nat} (h : 0 < n) : (Nat.toDigits 10 n).head? ≠ some '0' := by
  induction n using Nat.strongRecOn with
  | ind n ih =>
    by_cases hsmall : n < 10
    · have hdigit : ∀ k < 10, 0 < k → (Nat.toDigits 10 k).head? ≠ some '0' := by decide
      exact hdigit n hsmall h
    · have hrest := ih (n / 10) (by omega) (by omega)
      rw [Nat.toDigits_of_base_le (by decide) (Nat.le_of_not_lt hsmall), List.head?_append]
      cases hhead : (Nat.toDigits 10 (n / 10)).head? with
      | none => exact absurd (List.head?_eq_none_iff.1 hhead) Nat.toDigits_ne_nil
      | some c => rwa [hhead] at hrest

theorem le_ofDigitChars (m : Nat) (cs : List Char) : m ≤ Nat.ofDigitChars 10 cs m := by
  induction cs generalizing m with
  | nil => exact Nat.le_refl m
  | cons c cs ih => exact Nat.le_trans (by omega) (ih (10 * m + (c.toNat - '0'.toNat)))

/-- A significand takes in all digits of a number that it can hold. -/
theorem gather_eq {m : Nat} {cs : List Char} (h : Nat.ofDigitChars 10 cs m ≤ maxSignificand) :
    gather m cs = (Nat.ofDigitChars 10 cs m, 0) := by
  induction cs generalizing m with
  | nil => rfl
  | cons c cs ih =>
    have hnext : Nat.ofDigitChars 10 cs (m * 10 + (c.toNat - '0'.toNat)) =
        Nat.ofDigitChars 10 (c :: cs) m := by
      rw [Nat.mul_comm]
      rfl
    rw [← hnext] at h ⊢
    rw [gather, if_pos (Nat.le_trans (le_ofDigitChars _ cs) h)]
    exact ih h

/-- A natural number is a number as a whole, and within range when a significand can hold it. -/
theorem within_nat {levels n : Nat} (h : n ≤ maxSignificand) : Within levels (nat n) := by
  have hdigits : ∀ c ∈ Nat.toDigits 10 n, c.isDigit = true :=
    fun c => Nat.isDigit_of_mem_toDigits (by decide) (by decide)
  have hvalue : Nat.ofDigitChars 10 (Nat.toDigits 10 n) 0 = n := Nat.ofDigitChars_ten_toDigits
  have hgather : gather 0 (Nat.toDigits 10 n) = (n, 0) := by
    rw [gather_eq (by rwa [hvalue]), hvalue]
  have hrange : isInRange (Nat.toDigits 10 n) [] 0 = true := by
    simp [isInRange, hgather, gather, isFinite]
  have hzero : ¬ ((Nat.toDigits 10 n).isEmpty || ((Nat.toDigits 10 n).head? == some '0' &&
      decide (1 < (Nat.toDigits 10 n).length))) = true := by
    rcases Nat.eq_zero_or_pos n with rfl | hpos
    · decide
    · simp [head?_toDigits hpos, Nat.toDigits_ne_nil]
  have hunsigned : unsignedNumber? (Nat.toDigits 10 n) = some (Nat.toDigits 10 n, []) := by
    have htake : (Nat.toDigits 10 n).takeWhile Char.isDigit = Nat.toDigits 10 n :=
      List.takeWhile_eq_self_iff.2 hdigits
    have hdrop : (Nat.toDigits 10 n).dropWhile Char.isDigit = [] :=
      List.dropWhile_eq_nil_iff.2 hdigits
    rw [unsignedNumber?, htake, hdrop, if_neg hzero]
    simp [fractionPart, exponentPart, hrange]
  rw [nat, within_number_iff, Nat.toString_eq_repr, Nat.toList_repr]
  cases hcs : Nat.toDigits 10 n with
  | nil => exact absurd hcs Nat.toDigits_ne_nil
  | cons c cs =>
    have hc : c ≠ '-' := by
      rintro rfl
      exact absurd (hdigits '-' (by rw [hcs]; exact .head _)) (by decide)
    rw [number?_of_unsigned hc, ← hcs, hunsigned]

end EventSheet.Json
