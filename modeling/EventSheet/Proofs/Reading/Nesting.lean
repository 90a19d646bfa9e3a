import EventSheet.Proofs.Lexing.Spacing
import EventSheet.Proofs.Reading.Acceptance

/-!
# The nesting limit over the grammar

A text of the grammar has the nesting limit reported exactly when its tree takes more levels to read
than there are. That says less about how deep the tree is than it seems: every operator takes two
levels from its right operand, and all operators of a chain take one each from the operands at its
end. Trees of up to twenty-two levels fit in any case; a tower of a hundred powers does not.
-/

namespace EventSheet

theorem shallow_iff_of_concrete {source : String} {c : Concrete} (hc : c.In .sum)
    (htok : c.tokens = Token.lex source) :
    (∀ d ∈ (parse source).diagnostics, d.code ≠ .nestingTooDeep) ↔ c.demand ≤ nestingLimit := by
  have hstart : (Reader.start source).Shallow := nofun
  rw [diagnostics_of_concrete hc htok]
  exact (readText_taken hc htok).shallow.trans (and_iff_right hstart)

/-- An expression that is read without an error fits. -/
theorem demand_le_of_ok {source : String} {c : Concrete} (hc : c.In .sum)
    (htok : c.tokens = Token.lex source) (hok : (parse source).ok = true) :
    c.demand ≤ nestingLimit := by
  refine (shallow_iff_of_concrete hc htok).1 ?_
  intro d hd hcode
  have hmild := isError_eq_false_iff.1 (all_not_isError_iff.1 hok d hd)
  have hcode : d.problem.code = .nestingTooDeep := hcode
  rw [Problem.severity_eq_warning_iff (by rw [hcode]; decide), hcode] at hmild
  exact absurd hmild (by decide)

/-- An expression that fits is read without an error, as its own tree. -/
theorem parse_of_fitting {source : String} {c : Concrete} (hc : c.In .sum)
    (htok : c.tokens = Token.lex source) (hfits : c.demand ≤ nestingLimit) :
    (parse source).ok = true ∧ (parse source).root = c.expr := by
  have hok : (parse source).ok = true := by
    rw [Parse.ok, List.all_eq_true]
    intro d hd
    have hshallow := (shallow_iff_of_concrete hc htok).2 hfits d hd
    cases herr : d.isError with
    | false => rfl
    | true => exact absurd (code_eq_of_concrete hc htok hd herr) hshallow
  obtain ⟨d, hd, hdtok, hroot⟩ := exists_concrete_of_ok (htok ▸ hc.tokens_ne_nil) hok
  exact ⟨hok, by rw [hroot, hd.eq_of_tokens hc (hdtok.trans htok.symm)]⟩

/-- For a text of the grammar the nesting limit is reported exactly when its tree takes more levels
to read than the limit, and so for no tree of up to twenty-two levels. -/
theorem parse_shallow_iff {source : String} (hg : Grammatical (kinds (Token.lex source))) :
    ((∀ d ∈ (parse source).diagnostics, d.code ≠ .nestingTooDeep) ↔
      ∀ c : Concrete, c.In .sum → c.tokens = Token.lex source → c.demand ≤ nestingLimit) ∧
    ((∀ c : Concrete, c.In .sum → c.tokens = Token.lex source → c.levels ≤ 22) →
      ∀ d ∈ (parse source).diagnostics, d.code ≠ .nestingTooDeep) := by
  have hiff : (∀ d ∈ (parse source).diagnostics, d.code ≠ .nestingTooDeep) ↔
      ∀ c : Concrete, c.In .sum → c.tokens = Token.lex source → c.demand ≤ nestingLimit := by
    refine ⟨fun h c hc htok => (shallow_iff_of_concrete hc htok).1 h, fun h => ?_⟩
    rcases hg with hnil | hder
    · rw [parse_of_nil (List.map_eq_nil_iff.1 hnil)]
      exact nofun
    · obtain ⟨c, hc, htok⟩ := derives_iff_exists_concrete.1 hder
      exact (shallow_iff_of_concrete hc htok).2 (h c hc htok)
  exact ⟨hiff, fun h => hiff.2 fun c hc htok => Concrete.demand_le_nestingLimit hc (h c hc htok)⟩

theorem parse_shallow_signed_power :
    Grammatical (kinds (Token.lex "-2 ^ 3")) ∧
      ∀ c : Concrete, c.In .sum → c.tokens = Token.lex "-2 ^ 3" → c.demand ≤ nestingLimit := by
  have hkinds : kinds (Token.lex "-2 ^ 3") =
      (.minus :: [.number]) ++ .caret :: ([.number] ++ []) := by decide +kernel
  have hdiagnostics : (parse "-2 ^ 3").diagnostics = [] := by decide +kernel
  have hg : Grammatical (kinds (Token.lex "-2 ^ 3")) := by
    rw [hkinds]
    exact .inr (.expression (.signed (.inr rfl) (.unsigned .number))
      (.operation rfl (.unsigned .number) .noOperation))
  refine ⟨hg, (parse_shallow_iff hg).1.1 ?_⟩
  rw [hdiagnostics]
  exact nofun

/-! ### Towers of powers -/

/-- A text of `n` powers, each in the exponent of the one before. -/
def Text.tower : Nat → List Char
  | 0 => ['2']
  | n + 1 => '2' :: '^' :: Text.tower n

/-- The tree of a tower of powers that starts at the given place. -/
def Concrete.tower (offset : Nat) : Nat → Concrete
  | 0 => .number ⟨.number, "2", ⟨offset, offset + 1⟩⟩
  | n + 1 =>
    .operation .pow ⟨.caret, "^", ⟨offset + 1, offset + 2⟩⟩
      (.number ⟨.number, "2", ⟨offset, offset + 1⟩⟩) (Concrete.tower (offset + 2) n)

theorem Token.lexFrom_tower (offset n : Nat) :
    lexFrom offset (Text.tower n) = (Concrete.tower offset n).tokens := by
  induction n generalizing offset with
  | zero =>
    have hcut : Lexeme.first '2' [] = ⟨.number, ['2'], []⟩ := rfl
    rw [Text.tower, lexFrom_of_not_blank rfl, hcut, lexFrom]
    rfl
  | succ n ih =>
    have hcut (cs : List Char) : Lexeme.first '2' ('^' :: cs) = ⟨.number, ['2'], '^' :: cs⟩ := rfl
    rw [Text.tower, lexFrom_of_not_blank rfl, hcut, lexFrom_of_char rfl]
    exact congrArg (_ :: _ :: ·) (ih (offset + 2))

theorem Concrete.tower_in (offset n : Nat) : (Concrete.tower offset n).In .unary := by
  induction n generalizing offset with
  | zero => rw [tower, In]
  | succ n ih =>
    rw [tower, In]
    exact ⟨by decide, rfl, by rw [In], ih (offset + 2)⟩

theorem Concrete.levels_tower (offset n : Nat) : (Concrete.tower offset n).levels = n := by
  induction n generalizing offset with
  | zero => rw [tower, levels]
  | succ n ih => rw [tower, levels, levels, ih, Nat.zero_max]

/-- Every power takes two levels from its exponent. -/
theorem Concrete.demand_tower (offset n : Nat) : (Concrete.tower offset n).demand = 2 * n + 1 := by
  induction n generalizing offset with
  | zero => rw [tower, demand]
  | succ n ih =>
    simp only [tower, demand, chain, ih]
    omega

theorem Concrete.tokens_tower (n : Nat) :
    (Concrete.tower 0 n).tokens = Token.lex (String.ofList (Text.tower n)) := by
  rw [Token.lex, String.toList_ofList, Token.lexFrom_tower]

/-- A tower is refused from a hundred levels on. -/
theorem parse_tower_iff (n : Nat) :
    (∀ d ∈ (parse (String.ofList (Text.tower n))).diagnostics, d.code ≠ .nestingTooDeep) ↔
      n < 100 := by
  rw [shallow_iff_of_concrete ((Concrete.tower_in 0 n).mono (Layer.sum_le _))
    (Concrete.tokens_tower n), Concrete.demand_tower, nestingLimit]
  omega

/-- A text can be refused for its nesting with half as many levels in its tree as the limit. -/
theorem tower_refused : ¬ ∀ (source : String) (c : Concrete), c.In .sum →
    c.tokens = Token.lex source → c.levels ≤ nestingLimit →
    ∀ d ∈ (parse source).diagnostics, d.code ≠ .nestingTooDeep := by
  intro h
  have hlevels : (Concrete.tower 0 100).levels ≤ nestingLimit := by
    rw [Concrete.levels_tower]
    decide
  have hshallow := h (String.ofList (Text.tower 100)) (Concrete.tower 0 100)
    ((Concrete.tower_in 0 100).mono (Layer.sum_le _)) (Concrete.tokens_tower 100) hlevels
  exact absurd ((parse_tower_iff 100).1 hshallow) (Nat.lt_irrefl 100)

end EventSheet
