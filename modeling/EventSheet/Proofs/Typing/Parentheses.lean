import EventSheet.Proofs.Reading.Nesting
import EventSheet.Proofs.Syntax.Shifting
import EventSheet.Proofs.Typing.Layout

/-!
# Parentheses around a text

A text in parentheses has its own tokens between them, one byte further on, so that it derives as
the group of its own derivation. A group leaves no node behind, and what is told of a tree does not
depend on where the tree stands. So parentheses are transparent as long as the nesting limit leaves
a level for them: `parentheses_transparent`.
-/

namespace EventSheet

open Text (byteLength)

/-! ### Moved trees -/

mutual

/-- What a tree is does not depend on where it stands. -/
theorem Expr.form_shift (k : Nat) : ∀ e : Expr, (e.shift k).form = e.form
  | .number _ _ | .string _ _ | .identifier _ _ | .empty _ | .error _ _ _ => by
    simp only [Expr.shift, Expr.form]
  | .access name as _ => by
    simp only [Expr.shift, Expr.form, accessorForms_shift k as, Name.form, Name.shift]
  | .unary _ e _ => by simp only [Expr.shift, Expr.form, e.form_shift k]
  | .binary _ a b _ => by simp only [Expr.shift, Expr.form, a.form_shift k, b.form_shift k]
  | .call callee es _ => by
    have hcallee : (callee.shift k).form = callee.form := by cases callee <;> rfl
    simp only [Expr.shift, Expr.form, argumentForms_shift k es, hcallee]

theorem argumentForms_shift (k : Nat) :
    ∀ es : List Expr, argumentForms (shiftArguments k es) = argumentForms es
  | [] => by rw [shiftArguments]
  | e :: es => by
    simp only [shiftArguments, argumentForms, e.form_shift k, argumentForms_shift k es]

theorem accessorForms_shift (k : Nat) :
    ∀ as : List Accessor, accessorForms (shiftAccessors k as) = accessorForms as
  | [] => by rw [shiftAccessors]
  | .child _ _ :: as => by simp only [shiftAccessors, accessorForms, accessorForms_shift k as]
  | .index e _ :: as => by
    simp only [shiftAccessors, accessorForms, e.form_shift k, accessorForms_shift k as]

end

/-! ### Tokens of a text in parentheses -/

/-- The text between parentheses. -/
def parenthesized (source : String) : String := "(" ++ source ++ ")"

theorem toList_parenthesized (source : String) :
    (parenthesized source).toList = '(' :: (source.toList ++ [')']) := by
  rw [parenthesized, String.toList_append, String.toList_append]
  rfl

/-- The opening parenthesis of a text in parentheses. -/
def outerOpening : Token := ⟨.openParen, "(", ⟨0, 1⟩⟩

/-- The closing parenthesis of a text in parentheses. -/
def outerClosing (source : String) : Token :=
  ⟨.closeParen, ")", ⟨byteLength source.toList + 1, byteLength source.toList + 2⟩⟩

/-- A text whose literals are closed has its own tokens between parentheses, one byte further on. -/
theorem Token.lex_parenthesized {source : String}
    (hclosed : ∀ t ∈ lex source, t.kind ≠ .unterminatedString) :
    lex (parenthesized source) =
      outerOpening :: ((lex source).map (shift 1) ++ [outerClosing source]) := by
  have hshift : lexFrom (0 + 1) source.toList = (lex source).map (shift 1) :=
    lexFrom_shift 1 0 source.toList
  have hclosed' : ∀ t ∈ lexFrom (0 + 1) source.toList, t.kind ≠ .unterminatedString := by
    rw [hshift]
    intro t ht
    obtain ⟨u, hu, rfl⟩ := List.mem_map.1 ht
    exact hclosed u hu
  have hclosing : TokenKind.ofChar? ')' = some .closeParen := rfl
  rw [lex, toList_parenthesized, lexFrom_of_char rfl, lexFrom_append_char hclosing hclosed', hshift]
  simp only [outerOpening, outerClosing, Nat.zero_add, Nat.add_comm 1, Nat.add_assoc]
  rfl

/-! ### The derivation of a text in parentheses -/

/-- No phrase of the grammar has a text without its closing quote in it. -/
theorem Derives.unterminated_not_mem {p : Phrase} {ks : List TokenKind} (h : Derives p ks) :
    .unterminatedString ∉ ks := by
  induction h with
  | @operation k _ _ hk _ _ ih ih' =>
    have hne : .unterminatedString ≠ k := by
      rintro rfl
      exact nomatch hk
    simp [hne, ih, ih']
  | signed hk _ ih => rcases hk with rfl | rfl <;> simpa using ih
  | expression | unsigned | group | freeCall | objectCall | behaviorCall | access | index
  | accessor | arguments | nextArgument => simp_all
  | noOperation | number | string | name | child | noAccessor | noArgument | lastArgument => simp

namespace Concrete

section

variable {source : String} {c : Concrete}

theorem In.closed_of_mem_tokens (hc : c.In .sum) {t : Token} (ht : t ∈ c.tokens) :
    t.kind ≠ .unterminatedString := by
  have hder := derives_iff_exists_concrete.2 ⟨c, hc, rfl⟩
  exact fun hkind => hder.unterminated_not_mem (List.mem_map.2 ⟨t, ht, hkind⟩)

/-- The derivation of a text in parentheses, from the one of the text. -/
def parenthesized (source : String) (c : Concrete) : Concrete :=
  .group outerOpening (c.shift 1) (outerClosing source)

theorem in_parenthesized (source : String) (hc : c.In .sum) :
    (c.parenthesized source).In .sum := by
  rw [parenthesized, In]
  exact ⟨rfl, (c.in_shift 1).2 hc, rfl⟩

theorem tokens_parenthesized (hc : c.In .sum) (htok : c.tokens = Token.lex source) :
    (c.parenthesized source).tokens = Token.lex (EventSheet.parenthesized source) := by
  rw [parenthesized, tokens, tokens_shift, htok, Token.lex_parenthesized]
  exact fun t ht => hc.closed_of_mem_tokens (htok ▸ ht)

/-- The parentheses leave no node behind. -/
theorem expr_parenthesized (source : String) (c : Concrete) :
    (c.parenthesized source).expr =
      (c.expr.shift 1).withSpan ⟨0, byteLength source.toList + 2⟩ := by
  have hspan : outerOpening.span.merge (outerClosing source).span =
      ⟨0, byteLength source.toList + 2⟩ := by
    simp [Span.merge, outerOpening, outerClosing]
  rw [parenthesized, expr, expr_shift, hspan]

end

end Concrete

/-! ### Reports on a text in parentheses -/

/-- Parentheses are transparent. A text that is accepted is accepted between parentheses, unless
they nest it too deeply, and has the same tree there, one byte further on and with a root that covers
the parentheses. Wherever a type is required, checking the tree resolves to the same type and tells
the user the same in the same order. -/
theorem parentheses_transparent {source : String} (h : Token.lex source ≠ [])
    (hok : (parse source).ok = true)
    (hshallow : ∀ d ∈ (parse (parenthesized source)).diagnostics, d.code ≠ .nestingTooDeep) :
    (parse (parenthesized source)).ok = true ∧
    (parse (parenthesized source)).root =
      ((parse source).root.shift 1).withSpan ⟨0, byteLength source.toList + 2⟩ ∧
    ∀ (ctx : Context) (expected : SemanticType),
      (checkText ctx expected (parenthesized source)).type =
        (checkText ctx expected source).type ∧
      ∃ found found' : List Diagnostic,
        (checkText ctx expected source).diagnostics = (parse source).diagnostics ++ found ∧
        (checkText ctx expected (parenthesized source)).diagnostics =
          (parse (parenthesized source)).diagnostics ++ found' ∧
        found'.map Diagnostic.told = found.map Diagnostic.told := by
  obtain ⟨c, hc, htok, hroot⟩ := exists_concrete_of_ok h hok
  have hin := Concrete.in_parenthesized source hc
  have htok' := Concrete.tokens_parenthesized hc htok
  have hfits := (shallow_iff_of_concrete hin htok').1 hshallow
  obtain ⟨hok', hroot'⟩ := parse_of_fitting hin htok' hfits
  rw [Concrete.expr_parenthesized, ← hroot] at hroot'
  refine ⟨hok', hroot', fun ctx expected => ?_⟩
  have hform : (parse (parenthesized source)).root.form = (parse source).root.form := by
    rw [hroot', Expr.form_withSpan, Expr.form_shift]
  have hcheck : AlikeVerdicts _ _ ((parse (parenthesized source)).root.check ctx expected)
      ((parse source).root.check ctx expected) :=
    Expr.check_alike hform (parse_apart _) (parse_apart _) expected
  refine ⟨hcheck.type, _, _, rfl, rfl, Diagnostic.map_told_of_form ?_⟩
  have hfound := congrArg (List.map Problem.form) (problems_eq_of_told hcheck.told)
  rwa [List.map_map, List.map_map] at hfound

theorem parentheses_transparent_call :
    (parse (parenthesized "1 + f(-\"a\", (2))")).ok = true ∧
    (parse (parenthesized "1 + f(-\"a\", (2))")).root =
      ((parse "1 + f(-\"a\", (2))").root.shift 1).withSpan ⟨0, 18⟩ ∧
    (checkText .bare .string (parenthesized "1 + f(-\"a\", (2))")).type =
      (checkText .bare .string "1 + f(-\"a\", (2))").type := by
  have h := @parentheses_transparent "1 + f(-\"a\", (2))" (by decide +kernel)
    (by decide +kernel) (by decide +kernel)
  exact ⟨h.1, h.2.1, (h.2.2 .bare .string).1⟩

end EventSheet
