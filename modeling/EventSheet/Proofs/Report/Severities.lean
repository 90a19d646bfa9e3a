import EventSheet.Catalog.Platform
import EventSheet.Proofs.Reading.Form
import EventSheet.Proofs.Typing.Telling
import EventSheet.Report.Basic

/-!
# Severities and notes of reports

A problem is told where it is found, with its severity and maybe a note, and a type error that is
told about a parameter later keeps both. In the report that comes of it the code alone decides on
the severity and on whether there is a note, and a note points at the bracket of the text that the
diagnostic begins with: `severities_follow_codes`. The two halves of a report keep this for
different reasons: what reading tells is never reworded, and what is reworded was a type error.
-/

namespace EventSheet

/-- The bracket that is left open where a diagnostic has the code. -/
def Code.bracket? : Code → Option TokenKind
  | .unmatchedParenthesis | .unterminatedParameters => some .openParen
  | .unterminatedIndex => some .openBracket
  | _ => none

/-- A problem of form has a note exactly where a bracket is left open. -/
theorem Problem.isSome_note? {problem : Problem} (h : problem.code.isForm = true) :
    problem.note?.isSome = problem.code.bracket?.isSome := by
  cases problem <;> first | rfl | exact nomatch h

theorem Code.bracket?_of_meaning {c : Code} (h : c.isForm = false) : c.bracket? = none := by
  cases c <;> first | rfl | exact nomatch h

/-- The severity and the note of a diagnostic are those of its code, and the note points at the
token that the diagnostic begins with. -/
structure Diagnostic.Follows (ts : List Token) (d : Diagnostic) : Prop where
  severity : d.severity = .warning ↔
    d.code = .redundantParentheses ∨ d.code = .undeclaredObjectVariable
  note : d.problem.note?.isSome = d.code.bracket?.isSome
  bracket : ∀ said s, d.problem.note? = some (said, s) →
    ∃ t ∈ ts, d.code.bracket? = some t.kind ∧ s = t.span ∧ d.span.start = t.span.start

section

variable {ts : List Token}

/-- A problem of form that was never told about a parameter. -/
theorem Diagnostic.Follows.of_isForm {problem : Problem} {s : Span}
    (h : problem.code.isForm = true)
    (hbracket : ∀ said opening, problem.note? = some (said, opening) →
      ∃ t ∈ ts, problem.code.bracket? = some t.kind ∧ opening = t.span ∧ s.start = t.span.start) :
    Follows ts ⟨problem, s⟩ where
  severity := Problem.severity_eq_warning_iff fun hcode => by rw [hcode] at h; exact nomatch h
  note := Problem.isSome_note? h
  bracket := hbracket

theorem Token.LeftOpen.note? {t : Token} {problem : Problem} (h : t.LeftOpen problem) :
    problem.code.bracket? = some t.kind ∧ ∃ said, problem.note? = some (said, t.span) := by
  cases h with
  | group hk | call hk | index hk => exact ⟨by rw [hk]; rfl, _, rfl⟩

/-- What reading reports. -/
theorem follows_of_mem_parse {source : String} :
    ∀ d ∈ (parse source).diagnostics, d.Follows (Token.lex source) := by
  refine reported_parse ?_ ?_
  · intro problem s hnote hform
    refine .of_isForm hform ?_
    rw [hnote]
    exact nofun
  · intro problem t ht hopen stop
    obtain ⟨hkind, said, hnote⟩ := hopen.note?
    refine .of_isForm (hopen.isWithin (.point 0)).1 ?_
    intro said' opening hsome
    rw [hnote] at hsome
    cases hsome
    exact ⟨t, ht, hkind, rfl, rfl⟩

/-- What checking reports. -/
theorem Expr.follows_of_mem_check {ctx : Context} {e : Expr} {expected : SemanticType}
    {d : Diagnostic} (hd : d ∈ (e.check ctx expected).diagnostics) : d.Follows ts := by
  have hmeant := meant_of_mem_check hd
  have hmeaning : d.code.isForm = false := hmeant.meaning
  have hother : d.code ≠ .redundantParentheses := fun hcode => by
    rw [hcode] at hmeaning
    exact nomatch hmeaning
  refine ⟨?_, ?_, ?_⟩
  · rw [or_iff_right hother]
    exact hmeant.severity_eq_warning_iff
  · rw [hmeant.note?, Code.bracket?_of_meaning hmeaning]
    rfl
  · rw [hmeant.note?]
    exact nofun

end

/-- Severity and notes follow the code in every report. A diagnostic only warns exactly when its
code is that of redundant parentheses or of a variable that its object does not declare. It has a
note exactly when its code is that of a bracket left open; the note points at that bracket, a token
of the text of the kind that the code names, and the diagnostic starts where the bracket does. -/
theorem severities_follow_codes (ctx : Context) (expected : SemanticType) (source : String) :
    ∀ d ∈ (checkText ctx expected source).diagnostics,
      (d.severity = .warning ↔
        d.code = .redundantParentheses ∨ d.code = .undeclaredObjectVariable) ∧
      (d.problem.note?.isSome ↔ d.code = .unmatchedParenthesis ∨
        d.code = .unterminatedParameters ∨ d.code = .unterminatedIndex) ∧
      ∀ said s, d.problem.note? = some (said, s) →
        ∃ t ∈ Token.lex source,
          t.kind = (if d.code = .unterminatedIndex then .openBracket else .openParen) ∧
            t.span = s ∧ t.span.start = d.span.start := by
  intro d hd
  have hfollows : d.Follows (Token.lex source) := by
    rcases List.mem_append.1 hd with hd | hd
    · exact follows_of_mem_parse d hd
    · exact Expr.follows_of_mem_check hd
  refine ⟨hfollows.severity, ?_, ?_⟩
  · rw [hfollows.note]
    cases d.code <;> simp [Code.bracket?]
  · intro said s hnote
    obtain ⟨t, ht, hkind, rfl, hstart⟩ := hfollows.bracket said s hnote
    refine ⟨t, ht, ?_, rfl, hstart.symm⟩
    cases hcode : d.code <;> simp_all [Code.bracket?]

theorem severities_follow_codes_unclosed :
    let d : Diagnostic := ⟨.unterminatedIndex ⟨1, 2⟩, ⟨1, 3⟩⟩
    d ∈ (checkText ⟨Platform.empty.provider, .empty⟩ .var "a[1").diagnostics ∧
      d.severity = .error ∧ ∃ t ∈ Token.lex "a[1", t.kind = .openBracket ∧ t.span.start = 1 := by
  intro d
  have hd : d ∈ (checkText ⟨Platform.empty.provider, .empty⟩ .var "a[1").diagnostics := by
    decide +kernel
  obtain ⟨hseverity, -, hnote⟩ := severities_follow_codes _ _ _ d hd
  obtain ⟨t, ht, hkind, -, hstart⟩ := hnote _ _ rfl
  refine ⟨hd, ?_, t, ht, hkind, hstart⟩
  cases hwarning : d.severity with
  | error => rfl
  | warning => exact absurd (hseverity.1 hwarning) (by decide)

end EventSheet
