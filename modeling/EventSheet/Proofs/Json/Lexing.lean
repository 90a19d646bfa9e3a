import EventSheet.Json.Lexer
import EventSheet.Json.Printer

/-!
# Lexemes of written values

The compact form of a value is cut into the lexemes that the value consists of, whatever is written
behind it, as long as that does not go on with a number: `Json.lex_write`. A text is unescaped to
what it was escaped from, and a number ends where it is written to end.
-/

namespace EventSheet

/-! ### Values -/

/-- Induction over a value: what holds of the simple values, and of an array or an object whenever
it holds of all values in it, holds of every value. -/
@[elab_as_elim, induction_eliminator]
theorem Json.induction {motive : Json → Prop} (null : motive .null)
    (bool : ∀ b, motive (.bool b)) (number : ∀ literal, motive (.number literal))
    (string : ∀ s, motive (.string s))
    (array : ∀ items, (∀ j ∈ items, motive j) → motive (.array items))
    (object : ∀ members, (∀ m ∈ members, motive m.value) → motive (.object members))
    (j : Json) : motive j := by
  refine @Json.rec motive (fun m => motive m.value) (fun items => ∀ j ∈ items, motive j)
    (fun members => ∀ m ∈ members, motive m.value) null bool number string array object ?_ ?_ ?_ ?_
    ?_ j
  · exact fun _ _ h => h
  · exact nofun
  · intro j items hj hitems i hi
    rcases List.mem_cons.1 hi with rfl | hi
    · exact hj
    · exact hitems i hi
  · exact nofun
  · intro m members hm hmembers i hi
    rcases List.mem_cons.1 hi with rfl | hi
    · exact hm
    · exact hmembers i hi

namespace Json

/-- A value that can be read where the given levels of arrays and objects may be opened: it opens no
more of them, and its numbers are numbers as a whole and within range. -/
def Within : Nat → Json → Prop
  | _, .null => True
  | _, .bool _ => True
  | _, .number literal => number? literal.toList = some (literal.toList, [])
  | _, .string _ => True
  | 0, .array _ => False
  | 0, .object _ => False
  | levels + 1, .array items => ∀ j ∈ items, Within levels j
  | levels + 1, .object members => ∀ m ∈ members, Within levels m.value

section Within

variable {levels : Nat}

@[simp] theorem within_null : Within levels .null := by
  cases levels <;> trivial

@[simp] theorem within_bool (b : Bool) : Within levels (.bool b) := by
  cases levels <;> trivial

@[simp] theorem within_string (s : String) : Within levels (.string s) := by
  cases levels <;> trivial

theorem within_number_iff {literal : String} :
    Within levels (.number literal) ↔ number? literal.toList = some (literal.toList, []) := by
  cases levels <;> rfl

theorem within_array_iff {items : List Json} :
    Within levels (.array items) ↔ ∃ n, levels = n + 1 ∧ ∀ j ∈ items, Within n j := by
  cases levels with
  | zero => simp [Within]
  | succ n => simp [Within]

theorem within_object_iff {members : List Member} :
    Within levels (.object members) ↔ ∃ n, levels = n + 1 ∧ ∀ m ∈ members, Within n m.value := by
  cases levels with
  | zero => simp [Within]
  | succ n => simp [Within]

theorem within_object_succ_iff {members : List Member} :
    Within (levels + 1) (.object members) ↔ ∀ m ∈ members, Within levels m.value :=
  Iff.rfl

/-- An array opens one level more than its items. -/
theorem within_map {α : Type} {write : α → Json} (xs : List α)
    (h : ∀ x, Within levels (write x)) : Within (levels + 1) (.array (xs.map write)) := by
  intro j hj
  obtain ⟨x, -, rfl⟩ := List.mem_map.1 hj
  exact h x

end Within

mutual

/-- The lexemes that a value consists of. -/
def lexemes : Json → List Lexeme
  | .null => [.null]
  | .bool b => [.bool b]
  | .number literal => [.number literal]
  | .string s => [.string s]
  | .array items => .openBracket :: (itemLexemes items ++ [.closeBracket])
  | .object members => .openBrace :: (memberLexemes members ++ [.closeBrace])

/-- The lexemes of the items of an array, with a comma between two of them. -/
def itemLexemes : List Json → List Lexeme
  | [] => []
  | [item] => lexemes item
  | item :: rest => lexemes item ++ .comma :: itemLexemes rest

/-- The lexemes of the members of an object, with a comma between two of them. -/
def memberLexemes : List Member → List Lexeme
  | [] => []
  | [.mk key value] => .string key :: .colon :: lexemes value
  | .mk key value :: rest =>
    .string key :: .colon :: (lexemes value ++ .comma :: memberLexemes rest)

end

/-! ### Texts -/

/-- The digits of a control character stand for it. -/
theorem hexNumber?_hexDigit {n : Nat} (h : n < 0x20) :
    Text.hexNumber? ['0', '0', hexDigit (n / 16), hexDigit n] = some n := by
  revert n
  decide

theorem textBody_plain {c : Char} (hquote : c ≠ '"') (hescape : c ≠ '\\') (h : ¬ c.toNat < 0x20)
    (cs : List Char) : textBody (c :: cs) = (textBody cs).map fun p => (c :: p.1, p.2) := by
  have hkept : ¬ (decide (c.toNat < 0x20) || decide (c = '\\')) = true := by simp [h, hescape]
  rw [textBody, if_neg hkept]
  · exact hquote
  · exact fun _ _ _ _ _ hc => absurd hc hescape
  · exact fun _ _ hc => absurd hc hescape

theorem textBody_control {c : Char} (h : c.toNat < 0x20) (cs : List Char) :
    textBody ('\\' :: 'u' :: '0' :: '0' :: hexDigit (c.toNat / 16) :: hexDigit c.toNat :: cs) =
      (textBody cs).map fun p => (c :: p.1, p.2) := by
  have hhigh : isHighSurrogate c.toNat = false := by
    simp only [isHighSurrogate, Bool.and_eq_false_iff, decide_eq_false_iff_not]
    omega
  have hlow : isLowSurrogate c.toNat = false := by
    simp only [isLowSurrogate, Bool.and_eq_false_iff, decide_eq_false_iff_not]
    omega
  rw [textBody, hexNumber?_hexDigit h]
  simp only [hhigh, hlow, Bool.false_eq_true, if_false, Char.ofNat_toNat]

/-- A character is read back from its written form. -/
theorem textBody_escape (c : Char) (cs : List Char) :
    textBody (escape c ++ cs) = (textBody cs).map fun p => (c :: p.1, p.2) := by
  unfold escape
  repeat' split
  next h => subst h; rfl
  next h => subst h; rfl
  next h => subst h; rfl
  next h => subst h; rfl
  next h => subst h; rfl
  next h => subst h; rfl
  next h => subst h; rfl
  next h => exact textBody_control h cs
  next hquote hescape _ _ _ _ _ h => exact textBody_plain hquote hescape h cs

theorem textBody_escaped (s rest : List Char) :
    textBody (s.flatMap escape ++ '"' :: rest) = some (s, rest) := by
  induction s with
  | nil => rfl
  | cons c cs ih =>
    rw [List.flatMap_cons, List.append_assoc, textBody_escape, ih]
    rfl

/-! ### Numbers -/

/-- Whether a text goes on with nothing that could belong to a number before it. -/
def EndsNumber (cs : List Char) : Prop :=
  ∀ c ∈ cs.head?, c.isDigit = false ∧ c ≠ '.' ∧ c ≠ 'e' ∧ c ≠ 'E'

theorem endsNumber_nil : EndsNumber [] := nofun

theorem endsNumber_cons {c : Char} {cs : List Char} :
    EndsNumber (c :: cs) ↔ c.isDigit = false ∧ c ≠ '.' ∧ c ≠ 'e' ∧ c ≠ 'E' := by
  simp [EndsNumber]

section Numbers

variable {cs rest : List Char}

theorem EndsNumber.takeWhile_append (h : EndsNumber rest) (cs : List Char) :
    (cs ++ rest).takeWhile Char.isDigit = cs.takeWhile Char.isDigit := by
  induction cs with
  | nil =>
    cases rest with
    | nil => rfl
    | cons c rest => simp [(h c rfl).1]
  | cons c cs ih => simp only [List.cons_append, List.takeWhile_cons, ih]

theorem EndsNumber.dropWhile_append (h : EndsNumber rest) (cs : List Char) :
    (cs ++ rest).dropWhile Char.isDigit = cs.dropWhile Char.isDigit ++ rest := by
  induction cs with
  | nil =>
    cases rest with
    | nil => rfl
    | cons c rest => simp [(h c rfl).1]
  | cons c cs ih =>
    simp only [List.cons_append, List.dropWhile_cons, ih]
    split <;> rfl

theorem exponentSign_cons_append (c : Char) (cs rest : List Char) :
    exponentSign (c :: cs ++ rest) =
      ((exponentSign (c :: cs)).1, (exponentSign (c :: cs)).2 ++ rest) := by
  by_cases hplus : c = '+'
  · subst hplus
    rfl
  by_cases hminus : c = '-'
  · subst hminus
    rfl
  · simp [exponentSign, hplus, hminus]

theorem exponentPart_of_end (hrest : EndsNumber rest) {p : List Char × Int × List Char}
    (h : exponentPart cs = some p) :
    exponentPart (cs ++ rest) = some (p.1, p.2.1, p.2.2 ++ rest) := by
  cases cs with
  | nil =>
    cases h
    cases rest with
    | nil => rfl
    | cons c rest =>
      obtain ⟨-, -, he, hE⟩ := hrest c rfl
      simp [exponentPart, he, hE]
  | cons e cs =>
    rw [List.cons_append]
    unfold exponentPart at h ⊢
    dsimp only at h ⊢
    split at h
    next he =>
      rw [if_pos he]
      -- a digit follows the mark, so the sign is never looked for in what stands behind
      cases cs with
      | nil => cases h
      | cons c cs =>
        simp only [exponentSign_cons_append, hrest.takeWhile_append, hrest.dropWhile_append]
        split at h
        next => cases h
        next hdigits =>
          cases h
          rw [if_neg hdigits]
    next he =>
      cases h
      rw [if_neg he]
      rfl

theorem fractionPart_of_no_point (h : ∀ ds, cs ≠ '.' :: ds) :
    fractionPart cs = some ([], [], cs) := by
  unfold fractionPart
  split
  next ds => exact absurd rfl (h ds)
  next => rfl

theorem fractionPart_of_end (hrest : EndsNumber rest) {p : List Char × List Char × List Char}
    (h : fractionPart cs = some p) :
    fractionPart (cs ++ rest) = some (p.1, p.2.1, p.2.2 ++ rest) := by
  by_cases hpoint : ∃ ds, cs = '.' :: ds
  · obtain ⟨ds, rfl⟩ := hpoint
    simp only [fractionPart, List.cons_append, hrest.takeWhile_append,
      hrest.dropWhile_append] at h ⊢
    split at h
    next => cases h
    next hdigits =>
      cases h
      rw [if_neg hdigits]
  · -- a point could only begin what stands behind, which it does not
    rw [fractionPart_of_no_point fun ds hds => hpoint ⟨ds, hds⟩] at h
    cases h
    apply fractionPart_of_no_point
    intro ds hds
    cases cs with
    | nil => exact (hrest '.' (congrArg List.head? hds)).2.1 rfl
    | cons c cs =>
      obtain ⟨rfl, -⟩ := List.cons.inj hds
      exact hpoint ⟨cs, rfl⟩

theorem unsignedNumber?_of_end (hrest : EndsNumber rest) {p : List Char × List Char}
    (h : unsignedNumber? cs = some p) : unsignedNumber? (cs ++ rest) = some (p.1, p.2 ++ rest) := by
  unfold unsignedNumber? at h ⊢
  rw [hrest.takeWhile_append, hrest.dropWhile_append]
  simp only [Option.bind_eq_bind] at h ⊢
  split at h
  next => cases h
  next hwhole =>
    rw [if_neg hwhole]
    obtain ⟨f, hf, h⟩ := Option.bind_eq_some_iff.1 h
    obtain ⟨e, he, h⟩ := Option.bind_eq_some_iff.1 h
    rw [fractionPart_of_end hrest hf, Option.bind_some, exponentPart_of_end hrest he,
      Option.bind_some]
    split at h
    next hrange =>
      cases h
      rw [if_pos hrange]
      rfl
    next => cases h

theorem digit_of_unsignedNumber? {c : Char} {p : List Char × List Char}
    (h : unsignedNumber? (c :: cs) = some p) : c.isDigit = true := by
  cases hc : c.isDigit with
  | true => rfl
  | false => simp [unsignedNumber?, hc] at h

theorem number?_of_unsigned {c : Char} (h : c ≠ '-') (cs : List Char) :
    number? (c :: cs) = unsignedNumber? (c :: cs) := by
  rw [number?]
  exact fun _ hc => h (List.cons.inj hc).1

/-- A number begins with a digit or a minus. -/
theorem sign_or_digit_of_number? {c : Char} {p : List Char × List Char}
    (h : number? (c :: cs) = some p) : c = '-' ∨ c.isDigit = true := by
  by_cases hc : c = '-'
  · exact .inl hc
  · rw [number?_of_unsigned hc] at h
    exact .inr (digit_of_unsignedNumber? h)

/-- A number ends where it ended without what stands behind it. -/
theorem number?_of_end (hrest : EndsNumber rest) {p : List Char × List Char}
    (h : number? cs = some p) : number? (cs ++ rest) = some (p.1, p.2 ++ rest) := by
  cases cs with
  | nil => cases h
  | cons c cs =>
    by_cases hc : c = '-'
    · subst hc
      obtain ⟨q, hq, rfl⟩ := Option.map_eq_some_iff.1 h
      rw [List.cons_append, number?, unsignedNumber?_of_end hrest hq]
      rfl
    · rw [number?_of_unsigned hc] at h
      rw [List.cons_append, number?_of_unsigned hc, ← List.cons_append,
        unsignedNumber?_of_end hrest h]

end Numbers

/-! ### Lexemes -/

section Cut

variable {c : Char} {cs rest : List Char}

theorem cut_of_number {p : List Char × List Char} (h : number? (c :: cs) = some p) :
    cut c cs = (.number (String.ofList p.1), p.2) := by
  have hstart := sign_or_digit_of_number? h
  unfold cut
  split
  case h_11 => rw [h]
  all_goals exact absurd hstart (by decide)

theorem not_isBlank_of_number? {p : List Char × List Char} (h : number? (c :: cs) = some p) :
    isBlank c = false := by
  cases hc : isBlank c with
  | false => rfl
  | true =>
    have hstart := sign_or_digit_of_number? h
    simp only [isBlank, Bool.or_eq_true, beq_iff_eq] at hc
    rcases hc with ((rfl | rfl) | rfl) | rfl <;> exact absurd hstart (by decide)

theorem lex_cons (h : isBlank c = false) (cs : List Char) :
    lex (c :: cs) = (cut c cs).1 :: lex (cut c cs).2 := by
  rw [lex, if_neg (by rw [h]; exact Bool.false_ne_true)]

/-- A written number is one lexeme. -/
theorem lex_number {literal : String} (h : number? literal.toList = some (literal.toList, []))
    (hrest : EndsNumber rest) : lex (literal.toList ++ rest) = .number literal :: lex rest := by
  have hnumber := number?_of_end hrest h
  cases hcs : literal.toList with
  | nil =>
    rw [hcs] at h
    cases h
  | cons c cs =>
    rw [hcs, List.cons_append] at hnumber
    rw [List.cons_append, lex_cons (not_isBlank_of_number? hnumber), cut_of_number hnumber, ← hcs,
      String.ofList_toList]
    rfl

/-- A written text is one lexeme. -/
theorem lex_quote (s : String) (rest : List Char) :
    lex (quote s ++ rest) = .string s :: lex rest := by
  have hcut : cut '"' (s.toList.flatMap escape ++ '"' :: rest) = (.string s, rest) := by
    simp only [cut, textBody_escaped, String.ofList_toList]
  have hquote : quote s ++ rest = '"' :: (s.toList.flatMap escape ++ '"' :: rest) := by
    simp [quote]
  rw [hquote, lex_cons rfl, hcut]

end Cut

/-! ### Values -/

theorem writeItems_cons_cons (item next : Json) (items : List Json) :
    writeItems (item :: next :: items) = write item ++ ',' :: writeItems (next :: items) := by
  rw [writeItems]
  exact nofun

theorem itemLexemes_cons_cons (item next : Json) (items : List Json) :
    itemLexemes (item :: next :: items) =
      lexemes item ++ .comma :: itemLexemes (next :: items) := by
  rw [itemLexemes]
  exact nofun

theorem writeMembers_cons_cons (m next : Member) (members : List Member) :
    writeMembers (m :: next :: members) =
      quote m.key ++ ':' :: (write m.value ++ ',' :: writeMembers (next :: members)) := by
  obtain ⟨key, value⟩ := m
  rw [writeMembers, Member.key, Member.value]
  exact nofun

theorem memberLexemes_cons_cons (m next : Member) (members : List Member) :
    memberLexemes (m :: next :: members) =
      .string m.key :: .colon ::
        (lexemes m.value ++ .comma :: memberLexemes (next :: members)) := by
  obtain ⟨key, value⟩ := m
  rw [memberLexemes, Member.key, Member.value]
  exact nofun

theorem lex_comma (cs : List Char) : lex (',' :: cs) = .comma :: lex cs := lex_cons rfl cs

theorem lex_writeItems {items : List Json} {rest : List Char} (hrest : EndsNumber rest)
    (h : ∀ j ∈ items, ∀ rest, EndsNumber rest → lex (write j ++ rest) = lexemes j ++ lex rest) :
    lex (writeItems items ++ rest) = itemLexemes items ++ lex rest := by
  induction items with
  | nil => rfl
  | cons item items ih =>
    have hitem := h item (.head _)
    cases items with
    | nil => exact hitem rest hrest
    | cons next items =>
      have htail := ih fun j hj => h j (.tail _ hj)
      simp only [writeItems_cons_cons, itemLexemes_cons_cons, List.append_assoc, List.cons_append]
      rw [hitem _ (endsNumber_cons.2 (by decide)), lex_comma, htail]

/-- A key and what is written behind it. -/
theorem lex_quote_colon (key : String) (cs : List Char) :
    lex (quote key ++ ':' :: cs) = .string key :: .colon :: lex cs := by
  rw [lex_quote, lex_cons rfl]
  rfl

theorem lex_writeMembers {members : List Member} {rest : List Char} (hrest : EndsNumber rest)
    (h : ∀ m ∈ members, ∀ rest, EndsNumber rest →
      lex (write m.value ++ rest) = lexemes m.value ++ lex rest) :
    lex (writeMembers members ++ rest) = memberLexemes members ++ lex rest := by
  induction members with
  | nil => rfl
  | cons m members ih =>
    have hvalue := h m (.head _)
    cases members with
    | nil =>
      obtain ⟨key, value⟩ := m
      simp only [writeMembers, memberLexemes, List.append_assoc, List.cons_append]
      rw [lex_quote_colon]
      exact congrArg (.string key :: .colon :: ·) (hvalue rest hrest)
    | cons next members =>
      have htail := ih fun n hn => h n (.tail _ hn)
      simp only [writeMembers_cons_cons, memberLexemes_cons_cons, List.append_assoc,
        List.cons_append]
      rw [lex_quote_colon, hvalue _ (endsNumber_cons.2 (by decide)), lex_comma, htail]

/-- A written value is cut into the lexemes of the value. -/
theorem lex_write {levels : Nat} {j : Json} (h : Within levels j) {rest : List Char}
    (hrest : EndsNumber rest) : lex (write j ++ rest) = lexemes j ++ lex rest := by
  induction j generalizing levels rest with
  | null => exact lex_cons rfl _
  | bool b => cases b <;> exact lex_cons rfl _
  | number literal => exact lex_number (within_number_iff.1 h) hrest
  | string s => exact lex_quote s rest
  | array items ih =>
    obtain ⟨n, -, hitems⟩ := within_array_iff.1 h
    have hclose : EndsNumber (']' :: rest) := endsNumber_cons.2 (by decide)
    have hinside := lex_writeItems hclose fun j hj rest hrest => ih j hj (hitems j hj) hrest
    have hbehind : lex (']' :: rest) = .closeBracket :: lex rest := lex_cons rfl _
    simp only [write, lexemes, List.cons_append, List.append_assoc, List.nil_append]
    rw [← hbehind, ← hinside]
    exact lex_cons rfl _
  | object members ih =>
    obtain ⟨n, -, hmembers⟩ := within_object_iff.1 h
    have hclose : EndsNumber ('\x7d' :: rest) := endsNumber_cons.2 (by decide)
    have hinside := lex_writeMembers hclose fun m hm rest hrest => ih m hm (hmembers m hm) hrest
    have hbehind : lex ('\x7d' :: rest) = .closeBrace :: lex rest := lex_cons rfl _
    simp only [write, lexemes, List.cons_append, List.append_assoc, List.nil_append]
    rw [← hbehind, ← hinside]
    exact lex_cons rfl _

end Json

end EventSheet
