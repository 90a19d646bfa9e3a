import EventSheet.Proofs.Lexing.Positions
import EventSheet.Proofs.Reading.Soundness
import EventSheet.Proofs.Reading.Tolerance
import EventSheet.Proofs.Syntax.Layering
import EventSheet.Proofs.Syntax.Nodes

/-!
# What is accepted

The parser accepts exactly its grammar, and the tree of a text that it accepts is the one of its
only derivation. The flat grammar says which texts are accepted, the layered one what they mean.
-/

namespace EventSheet

/-! ### The end of a text -/

/-- Before the end of a text there is a token to take. -/
theorem Reader.tokens_eq_nil_of_kind {source : String} {r : Reader}
    (h : (Reader.start source).Leads r) (hk : r.kind = .eof) : r.tokens = [] := by
  cases htok : r.tokens with
  | nil => rfl
  | cons t ts =>
    have hmem : t ∈ Token.lex source := h.tokens.subset (by simp [htok])
    exact absurd ((Reader.kind_eq htok).symm.trans hk) (Token.kind_ne_eof_of_mem_lexFrom hmem)

/-- Where reading leaves a text that has tokens, before what follows the expression is looked at. -/
def readText (source : String) : Expr × Reader :=
  expression nestingLimit 0 (Reader.start source)

theorem parse_of_nil {source : String} (h : Token.lex source = []) :
    (parse source).diagnostics = [] := by
  have hk : (Reader.start source).kind = .eof := Reader.kind_eq_eof h
  simp [parse, hk]

theorem parse_of_ne_nil {source : String} (h : Token.lex source ≠ []) :
    parse source =
      ⟨(readText source).1, (closeText (readText source).2).diagnostics.toList⟩ := by
  have hk : (Reader.start source).kind ≠ .eof :=
    fun hk => h (Reader.tokens_eq_nil_of_kind (.refl _) hk)
  simp only [parse, if_neg hk]
  rfl

theorem faultless_of_ok {source : String} (h : Token.lex source ≠ [])
    (hok : (parse source).ok = true) : (closeText (readText source).2).Faultless := by
  rw [Parse.ok, parse_of_ne_nil h] at hok
  exact all_not_isError_iff.1 hok

/-- What is left after the expression is an error, so that a text without one has nothing left. -/
theorem tokens_eq_nil_of_faultless {source : String}
    (hf : (closeText (readText source).2).Faultless) : (readText source).2.tokens = [] := by
  unfold closeText at hf
  split at hf
  next hk => exact Reader.tokens_eq_nil_of_kind (expression_leads _ _ _) hk
  next =>
    refine absurd hf (Reader.not_faultless_report _ _ ?_)
    split <;> rfl

/-- What is read of a text without an error is an expression. -/
theorem exists_accounts_of_faultless {source : String} (hf : (readText source).2.Faultless) :
    ∃ c : Concrete, c.In .sum ∧
      c.Accounts nestingLimit (Token.lex source) ⟨none, []⟩ (readText source) := by
  obtain ⟨c, hc, haccounts, -⟩ :=
    expression_accounted nestingLimit (Reader.start source) (Nat.zero_le _) hf
  exact ⟨c, hc, haccounts⟩

/-- A text that is accepted is an expression. -/
theorem exists_concrete_of_ok {source : String} (h : Token.lex source ≠ [])
    (hok : (parse source).ok = true) :
    ∃ c : Concrete, c.In .sum ∧ c.tokens = Token.lex source ∧ (parse source).root = c.expr := by
  have hf := faultless_of_ok h hok
  obtain ⟨c, hc, haccounts⟩ := exists_accounts_of_faultless ((closeText_leads _).faultless hf)
  refine ⟨c, hc, ?_, ?_⟩
  · have htok := haccounts.tokens
    rw [tokens_eq_nil_of_faultless hf, List.append_nil] at htok
    exact htok.symm
  · rw [parse_of_ne_nil h]
    exact haccounts.expr

/-- An expression is read to its end, with the nesting limit reported unless it fits. -/
theorem readText_taken {source : String} {c : Concrete} (hc : c.In .sum)
    (htok : c.tokens = Token.lex source) :
    Taken (c.demand ≤ nestingLimit) [] (Reader.start source) (readText source).2 := by
  have hstart : (Reader.start source).tokens = c.tokens ++ [] := by
    rw [htok, List.append_nil]
    rfl
  have hfollows : c.Follows [] := ⟨trivial, trivial⟩
  obtain ⟨m, left, r', heq, hpassed⟩ :=
    c.passes nestingLimit (Nat.zero_le _) hc hfollows hstart
  rw [readText, heq, hpassed.operations_eq m (Nat.zero_le _) trivial]
  exact hpassed.taken rfl

/-- What is reported for an expression is reported while it is read. -/
theorem diagnostics_of_concrete {source : String} {c : Concrete} (hc : c.In .sum)
    (htok : c.tokens = Token.lex source) :
    (parse source).diagnostics = (readText source).2.diagnostics.toList := by
  have hclose : closeText (readText source).2 = (readText source).2 :=
    if_pos (Reader.kind_eq_eof (readText_taken hc htok).tokens)
  rw [parse_of_ne_nil (htok ▸ hc.tokens_ne_nil), hclose]

/-- An expression is read with no error but the nesting limit. -/
theorem code_eq_of_concrete {source : String} {c : Concrete} (hc : c.In .sum)
    (htok : c.tokens = Token.lex source) {d : Diagnostic} (hd : d ∈ (parse source).diagnostics)
    (herr : d.isError = true) : d.code = .nestingTooDeep := by
  rw [diagnostics_of_concrete hc htok] at hd
  exact (readText_taken hc htok).mild (by simp [Reader.Mild, Reader.start]) d hd herr

theorem grammatical_of_ok {source : String} (hok : (parse source).ok = true) :
    Grammatical (kinds (Token.lex source)) := by
  by_cases h : Token.lex source = []
  · exact .inl (by rw [h]; rfl)
  · obtain ⟨c, hc, htok, -⟩ := exists_concrete_of_ok h hok
    exact .inr (derives_iff_exists_concrete.2 ⟨c, hc, htok⟩)

theorem code_eq_of_grammatical {source : String} (hg : Grammatical (kinds (Token.lex source)))
    {d : Diagnostic} (hd : d ∈ (parse source).diagnostics) (herr : d.isError = true) :
    d.code = .nestingTooDeep := by
  rcases hg with hnil | hder
  · rw [parse_of_nil (List.map_eq_nil_iff.1 hnil)] at hd
    exact nomatch hd
  · obtain ⟨c, hc, htok⟩ := derives_iff_exists_concrete.1 hder
    exact code_eq_of_concrete hc htok hd herr

/-- The parser accepts exactly its grammar: a text of the grammar has no error but that it nests too
deeply, and any other text has an error. -/
theorem parse_accepts (source : String) :
    (Grammatical (kinds (Token.lex source)) →
      (∀ d ∈ (parse source).diagnostics, d.isError = true → d.code = .nestingTooDeep) ∧
      ((∀ d ∈ (parse source).diagnostics, d.code ≠ .nestingTooDeep) → (parse source).ok = true)) ∧
    (¬ Grammatical (kinds (Token.lex source)) → (parse source).ok = false) := by
  refine ⟨fun hg => ⟨fun d hd => code_eq_of_grammatical hg hd, fun hshallow => ?_⟩, fun hg => ?_⟩
  · rw [Parse.ok, List.all_eq_true]
    intro d hd
    cases herr : d.isError with
    | false => rfl
    | true => exact absurd (code_eq_of_grammatical hg hd herr) (hshallow d hd)
  · cases hok : (parse source).ok with
    | false => rfl
    | true => exact absurd (grammatical_of_ok hok) hg

theorem parse_accepts_sum :
    Grammatical (kinds (Token.lex "1 + 2")) ∧ (parse "1 + 2").ok = true := by
  have hkinds : kinds (Token.lex "1 + 2") = [.number] ++ .plus :: ([.number] ++ []) := by
    decide +kernel
  have hdiagnostics : (parse "1 + 2").diagnostics = [] := by decide +kernel
  have hg : Grammatical (kinds (Token.lex "1 + 2")) := by
    rw [hkinds]
    exact .inr (.expression (.unsigned .number) (.operation rfl (.unsigned .number) .noOperation))
  refine ⟨hg, ((parse_accepts "1 + 2").1 hg).2 ?_⟩
  simp [hdiagnostics]

/-- A text that is accepted has one derivation in the layered grammar, its tree is the tree of that
derivation, and nothing in the tree is missing or unread. -/
theorem parse_root_of_ok {source : String} (h : Token.lex source ≠ [])
    (hok : (parse source).ok = true) :
    ∃ c : Concrete, c.In .sum ∧ c.tokens = Token.lex source ∧ (parse source).root = c.expr ∧
      (∀ e ∈ (parse source).root.nodes, e.isWritten = true) ∧
      ∀ d : Concrete, d.In .sum → d.tokens = Token.lex source → d = c := by
  obtain ⟨c, hc, htok, hroot⟩ := exists_concrete_of_ok h hok
  refine ⟨c, hc, htok, hroot, ?_, ?_⟩
  · intro e he
    rw [hroot] at he
    exact c.isWritten_of_mem_nodes he
  · intro d hd hdtok
    exact hd.eq_of_tokens hc (hdtok.trans htok.symm)

theorem parse_root_of_signed_powers :
    ∃ c : Concrete, c.In .sum ∧ c.tokens = Token.lex "-2 ^ -3 ^ 4 * 5" ∧
      (parse "-2 ^ -3 ^ 4 * 5").root = c.expr ∧
      (∀ e ∈ (parse "-2 ^ -3 ^ 4 * 5").root.nodes, e.isWritten = true) ∧
      ∀ d : Concrete, d.In .sum → d.tokens = Token.lex "-2 ^ -3 ^ 4 * 5" → d = c :=
  parse_root_of_ok (by decide +kernel) (by decide +kernel)

-- powers nest to the right, a sign takes a power, and a product takes what is signed
example : (parse "-2 ^ -3 ^ 4 * 5").root =
    .binary .mul
      (.unary .minus
        (.binary .pow (.number "2" ⟨1, 2⟩)
          (.unary .minus
            (.binary .pow (.number "3" ⟨6, 7⟩) (.number "4" ⟨10, 11⟩) ⟨6, 11⟩) ⟨5, 11⟩)
          ⟨1, 11⟩) ⟨0, 11⟩)
      (.number "5" ⟨14, 15⟩) ⟨0, 15⟩ := by
  with_unfolding_all rfl

end EventSheet
