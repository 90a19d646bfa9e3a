import EventSheet.Json.Parser
import EventSheet.Proofs.Json.Lexing

/-!
# Written values read back

A value is read from the lexemes that it consists of when it opens no more levels than are left, and
otherwise it is refused; so it is with its compact text: `Json.parse?_compact` and
`Json.leading?_compact_eq_none`.
-/

namespace EventSheet.Json

/-- What a value begins with. -/
theorem exists_lexemes_eq_cons (j : Json) :
    ∃ t ts, lexemes j = t :: ts ∧ t ≠ .closeBracket := by
  cases j <;> rw [lexemes] <;> exact ⟨_, _, rfl, by simp⟩

section Lists

variable {inner : LexemeReader Json} {n : Nat}

theorem length_le_itemLexemes (items : List Json) :
    items.length ≤ (itemLexemes items).length := by
  induction items with
  | nil => exact Nat.le_refl 0
  | cons item items ih =>
    cases items with
    | nil =>
      obtain ⟨t, ts, h, -⟩ := exists_lexemes_eq_cons item
      simp [itemLexemes, h]
    | cons next items =>
      rw [itemLexemes_cons_cons]
      simp only [List.length_cons, List.length_append] at ih ⊢
      omega

theorem length_le_memberLexemes (members : List Member) :
    members.length ≤ (memberLexemes members).length := by
  induction members with
  | nil => exact Nat.le_refl 0
  | cons m members ih =>
    cases members with
    | nil =>
      obtain ⟨key, value⟩ := m
      simp [memberLexemes]
    | cons next members =>
      rw [memberLexemes_cons_cons]
      simp only [List.length_cons, List.length_append] at ih ⊢
      omega

theorem itemLexemes_append_ne (j : Json) (js : List Json) (ts us : List Lexeme) :
    itemLexemes (j :: js) ++ ts ≠ .closeBracket :: us := by
  obtain ⟨t, vs, h, ht⟩ := exists_lexemes_eq_cons j
  intro heq
  cases js with
  | nil =>
    rw [itemLexemes, h] at heq
    exact ht (List.cons.inj heq).1
  | cons next js =>
    rw [itemLexemes_cons_cons, h] at heq
    exact ht (List.cons.inj heq).1

theorem memberLexemes_append_ne (m : Member) (ms : List Member) (ts us : List Lexeme) :
    memberLexemes (m :: ms) ++ ts ≠ .closeBrace :: us := by
  obtain ⟨key, value⟩ := m
  cases ms with
  | nil => simp [memberLexemes]
  | cons next ms => simp [memberLexemes_cons_cons]

/-! ### Items and members -/

theorem items_one {j : Json} (h : ∀ ts, inner (lexemes j ++ ts) = some (j, ts))
    (ts : List Lexeme) :
    items inner (n + 1) (itemLexemes [j] ++ .closeBracket :: ts) = some ([j], ts) := by
  simp only [itemLexemes, items, h]

theorem items_more {j : Json} (h : ∀ ts, inner (lexemes j ++ ts) = some (j, ts)) (next : Json)
    (js : List Json) (ts : List Lexeme) :
    items inner (n + 1) (itemLexemes (j :: next :: js) ++ ts) =
      (items inner n (itemLexemes (next :: js) ++ ts)).map fun p => (j :: p.1, p.2) := by
  simp only [itemLexemes_cons_cons, List.append_assoc, List.cons_append, items, h]

theorem items_refused {j : Json} (h : ∀ ts, inner (lexemes j ++ ts) = none) (js : List Json)
    (ts : List Lexeme) : items inner n (itemLexemes (j :: js) ++ ts) = none := by
  cases n with
  | zero => rw [items]
  | succ n =>
    cases js with
    | nil => simp only [itemLexemes, items, h]
    | cons next js =>
      simp only [itemLexemes_cons_cons, List.append_assoc, List.cons_append, items, h]

theorem members_zero (ts : List Lexeme) : members inner 0 ts = none := by
  rw [members]
  exact nofun

theorem members_one {m : Member} (h : ∀ ts, inner (lexemes m.value ++ ts) = some (m.value, ts))
    (ts : List Lexeme) :
    members inner (n + 1) (memberLexemes [m] ++ .closeBrace :: ts) = some ([m], ts) := by
  obtain ⟨key, value⟩ := m
  simp only [Member.value] at h
  simp only [memberLexemes, List.cons_append, members, h]

theorem members_more {m : Member} (h : ∀ ts, inner (lexemes m.value ++ ts) = some (m.value, ts))
    (next : Member) (ms : List Member) (ts : List Lexeme) :
    members inner (n + 1) (memberLexemes (m :: next :: ms) ++ ts) =
      (members inner n (memberLexemes (next :: ms) ++ ts)).map fun p => (m :: p.1, p.2) := by
  obtain ⟨key, value⟩ := m
  simp only [Member.value] at h
  simp only [memberLexemes_cons_cons, Member.key, Member.value, List.append_assoc,
    List.cons_append, members, h]

theorem members_refused {m : Member} (h : ∀ ts, inner (lexemes m.value ++ ts) = none)
    (ms : List Member) (ts : List Lexeme) :
    members inner n (memberLexemes (m :: ms) ++ ts) = none := by
  cases n with
  | zero => exact members_zero _
  | succ n =>
    obtain ⟨key, value⟩ := m
    simp only [Member.value] at h
    cases ms with
    | nil => simp only [memberLexemes, List.cons_append, members, h]
    | cons next ms =>
      simp only [memberLexemes_cons_cons, Member.key, Member.value, List.append_assoc,
        List.cons_append, members, h]

/-- Items are read back by a reader that reads each of them back. -/
theorem items_itemLexemes {js : List Json} (hne : js ≠ []) (hn : js.length ≤ n)
    (h : ∀ j ∈ js, ∀ ts, inner (lexemes j ++ ts) = some (j, ts)) (ts : List Lexeme) :
    items inner n (itemLexemes js ++ .closeBracket :: ts) = some (js, ts) := by
  induction js generalizing n with
  | nil => exact absurd rfl hne
  | cons j js ih =>
    cases n with
    | zero => exact absurd hn (Nat.not_succ_le_zero _)
    | succ n =>
      cases js with
      | nil => exact items_one (h j (.head _)) ts
      | cons next js =>
        rw [items_more (h j (.head _)), ih (List.cons_ne_nil _ _) (Nat.le_of_succ_le_succ hn)
          fun i hi => h i (.tail _ hi)]
        rfl

/-- Items are refused by a reader that reads some of them back and refuses the others. -/
theorem items_itemLexemes_eq_none {js : List Json}
    (h : ∀ j ∈ js, (∀ ts, inner (lexemes j ++ ts) = some (j, ts)) ∨
      ∀ ts, inner (lexemes j ++ ts) = none)
    (hnone : ∃ j ∈ js, ∀ ts, inner (lexemes j ++ ts) = none) (ts : List Lexeme) :
    items inner n (itemLexemes js ++ .closeBracket :: ts) = none := by
  obtain ⟨i, hi, hfails⟩ := hnone
  induction js generalizing n with
  | nil => cases hi
  | cons j js ih =>
    rcases h j (.head _) with hread | hrefused
    · cases n with
      | zero => rw [items]
      | succ n =>
        rcases List.mem_cons.1 hi with rfl | hi
        · cases (hread []).symm.trans (hfails [])
        · cases js with
          | nil => cases hi
          | cons next js =>
            rw [items_more hread, ih (fun i hi => h i (.tail _ hi)) hi]
            rfl
    · exact items_refused hrefused js _

/-- Members are read back by a reader that reads the value of each of them back. -/
theorem members_memberLexemes {ms : List Member} (hne : ms ≠ []) (hn : ms.length ≤ n)
    (h : ∀ m ∈ ms, ∀ ts, inner (lexemes m.value ++ ts) = some (m.value, ts)) (ts : List Lexeme) :
    members inner n (memberLexemes ms ++ .closeBrace :: ts) = some (ms, ts) := by
  induction ms generalizing n with
  | nil => exact absurd rfl hne
  | cons m ms ih =>
    cases n with
    | zero => exact absurd hn (Nat.not_succ_le_zero _)
    | succ n =>
      cases ms with
      | nil => exact members_one (h m (.head _)) ts
      | cons next ms =>
        rw [members_more (h m (.head _)), ih (List.cons_ne_nil _ _) (Nat.le_of_succ_le_succ hn)
          fun i hi => h i (.tail _ hi)]
        rfl

/-- Members are refused by a reader that reads the values of some of them back and refuses the
others. -/
theorem members_memberLexemes_eq_none {ms : List Member}
    (h : ∀ m ∈ ms, (∀ ts, inner (lexemes m.value ++ ts) = some (m.value, ts)) ∨
      ∀ ts, inner (lexemes m.value ++ ts) = none)
    (hnone : ∃ m ∈ ms, ∀ ts, inner (lexemes m.value ++ ts) = none) (ts : List Lexeme) :
    members inner n (memberLexemes ms ++ .closeBrace :: ts) = none := by
  obtain ⟨i, hi, hfails⟩ := hnone
  induction ms generalizing n with
  | nil => cases hi
  | cons m ms ih =>
    rcases h m (.head _) with hread | hrefused
    · cases n with
      | zero => exact members_zero _
      | succ n =>
        rcases List.mem_cons.1 hi with rfl | hi
        · cases (hread []).symm.trans (hfails [])
        · cases ms with
          | nil => cases hi
          | cons next ms =>
            rw [members_more hread, ih (fun i hi => h i (.tail _ hi)) hi]
            rfl
    · exact members_refused hrefused ms _

end Lists

/-! ### Values -/

section Values

variable {levels : Nat}

/-- An array that is not empty, by the reader of its items. -/
theorem value_openBracket {ts : List Lexeme} (h : ∀ us, ts ≠ .closeBracket :: us) :
    value (levels + 1) (.openBracket :: ts) =
      (items (fun ts => value levels ts) ts.length ts).map fun p => (array p.1, p.2) := by
  rw [value]
  exact h

/-- An object that is not empty, by the reader of its members. -/
theorem value_openBrace {ts : List Lexeme} (h : ∀ us, ts ≠ .closeBrace :: us) :
    value (levels + 1) (.openBrace :: ts) =
      (members (fun ts => value levels ts) ts.length ts).map fun p => (object p.1, p.2) := by
  rw [value]
  exact h

/-- A value is read from the lexemes that it consists of. -/
theorem value_lexemes {j : Json} (h : Within levels j) (ts : List Lexeme) :
    value levels (lexemes j ++ ts) = some (j, ts) := by
  induction j generalizing levels ts with
  | null => rw [lexemes, List.singleton_append, value]
  | bool b => rw [lexemes, List.singleton_append, value]
  | number literal => rw [lexemes, List.singleton_append, value]
  | string s => rw [lexemes, List.singleton_append, value]
  | array js ih =>
    obtain ⟨levels, rfl, hjs⟩ := within_array_iff.1 h
    rw [lexemes, List.cons_append, List.append_assoc, List.singleton_append]
    cases js with
    | nil => rw [itemLexemes, List.nil_append, value]
    | cons j js =>
      -- every item has a lexeme, so the lexemes that are left are enough rounds for the items
      have hlength : (j :: js).length ≤ (itemLexemes (j :: js) ++ .closeBracket :: ts).length :=
        Nat.le_trans (length_le_itemLexemes _) (by rw [List.length_append]; omega)
      have hitems := items_itemLexemes (List.cons_ne_nil j js) hlength
        (fun i hi ts => ih i hi (hjs i hi) ts) ts
      rw [value_openBracket (itemLexemes_append_ne j js _), hitems]
      rfl
  | object ms ih =>
    obtain ⟨levels, rfl, hms⟩ := within_object_iff.1 h
    rw [lexemes, List.cons_append, List.append_assoc, List.singleton_append]
    cases ms with
    | nil => rw [memberLexemes, List.nil_append, value]
    | cons m ms =>
      have hlength : (m :: ms).length ≤ (memberLexemes (m :: ms) ++ .closeBrace :: ts).length :=
        Nat.le_trans (length_le_memberLexemes _) (by rw [List.length_append]; omega)
      have hmembers := members_memberLexemes (List.cons_ne_nil m ms) hlength
        (fun i hi ts => ih i hi (hms i hi) ts) ts
      rw [value_openBrace (memberLexemes_append_ne m ms _), hmembers]
      rfl

/-- A value that opens more levels than are left is not read. -/
theorem value_lexemes_eq_none {j : Json} {most : Nat} (h : Within most j)
    (hdeep : ¬ Within levels j) (ts : List Lexeme) : value levels (lexemes j ++ ts) = none := by
  induction j generalizing most levels ts with
  | null => exact absurd within_null hdeep
  | bool b => exact absurd (within_bool b) hdeep
  | number literal => exact absurd (within_number_iff.2 (within_number_iff.1 h)) hdeep
  | string s => exact absurd (within_string s) hdeep
  | array js ih =>
    obtain ⟨most, rfl, hjs⟩ := within_array_iff.1 h
    rw [lexemes, List.cons_append, List.append_assoc, List.singleton_append]
    cases levels with
    | zero => simp [value]
    | succ levels =>
      have hread : ∀ j ∈ js, (∀ ts, value levels (lexemes j ++ ts) = some (j, ts)) ∨
          ∀ ts, value levels (lexemes j ++ ts) = none := fun j hj =>
        (Classical.em (Within levels j)).imp (fun h => value_lexemes h)
          fun hdeep => ih j hj (hjs j hj) hdeep
      obtain ⟨i, hi, hfails⟩ : ∃ i ∈ js, ¬ Within levels i := by simpa [Within] using hdeep
      cases js with
      | nil => cases hi
      | cons j js =>
        rw [value_openBracket (itemLexemes_append_ne j js _),
          items_itemLexemes_eq_none hread ⟨i, hi, ih i hi (hjs i hi) hfails⟩]
        rfl
  | object ms ih =>
    obtain ⟨most, rfl, hms⟩ := within_object_iff.1 h
    rw [lexemes, List.cons_append, List.append_assoc, List.singleton_append]
    cases levels with
    | zero => simp [value]
    | succ levels =>
      have hread : ∀ m ∈ ms, (∀ ts, value levels (lexemes m.value ++ ts) = some (m.value, ts)) ∨
          ∀ ts, value levels (lexemes m.value ++ ts) = none := fun m hm =>
        (Classical.em (Within levels m.value)).imp (fun h => value_lexemes h)
          fun hdeep => ih m hm (hms m hm) hdeep
      obtain ⟨i, hi, hfails⟩ : ∃ i ∈ ms, ¬ Within levels i.value := by
        simpa [Within] using hdeep
      cases ms with
      | nil => cases hi
      | cons m ms =>
        rw [value_openBrace (memberLexemes_append_ne m ms _),
          members_memberLexemes_eq_none hread ⟨i, hi, ih i hi (hms i hi) hfails⟩]
        rfl

end Values

/-- A compact text has the lexemes of its value. -/
theorem lex_compact {levels : Nat} {j : Json} (h : Within levels j) :
    lex j.compact.toList = lexemes j := by
  have hend := lex_write h endsNumber_nil
  rwa [List.append_nil, lex, List.append_nil, ← String.toList_ofList (l := write j)] at hend

/-- A value is read back from its compact text. -/
theorem leading?_compact {j : Json} (h : Within nestingLimit j) :
    leading? j.compact = some (j, []) := by
  have hvalue := value_lexemes h []
  rwa [List.append_nil, ← lex_compact h] at hvalue

/-- The compact text of a value that nests too deeply holds no value. -/
theorem leading?_compact_eq_none {j : Json} {most : Nat} (h : Within most j)
    (hdeep : ¬ Within nestingLimit j) : leading? j.compact = none := by
  have hvalue := value_lexemes_eq_none h hdeep []
  rwa [List.append_nil, ← lex_compact h] at hvalue

/-- A text that is a value has nothing behind it. -/
theorem leading?_of_parse? {text : String} {j : Json} (h : parse? text = some j) :
    leading? text = some (j, []) := by
  unfold parse? at h
  split at h
  next hleading =>
    cases h
    exact hleading
  next => cases h

theorem parse?_compact {j : Json} (h : Within nestingLimit j) : parse? j.compact = some j := by
  rw [parse?, leading?_compact h]

end EventSheet.Json
