import EventSheet.Proofs.Reading.Productions

/-!
# What reading reports

What reading reports is of two sorts: a problem without a note, or a bracket of the text that was
left open, reported from the bracket on. So what holds of both sorts holds of all that is reported,
wherever reading recovers from an error: `Reads.reported`. All of it is about the form of the text
(`parse_isForm`); what a text means is left to checking. That something is left behind an expression
is not found while the expression is read: `Reads.reported_within`.
-/

namespace EventSheet

/-- Whether the code says that something is left behind the expression. -/
def Code.isLeftover : Code → Bool
  | .extraCharacters | .unexpectedClosingParenthesis => true
  | _ => false

/-- A diagnostic about the form of an expression itself. -/
def Diagnostic.IsWithin (d : Diagnostic) : Prop :=
  d.code.isForm = true ∧ d.code.isLeftover = false

/-- The problem is that the bracket is not closed. -/
inductive Token.LeftOpen (t : Token) : Problem → Prop
  | group : t.kind = .openParen → LeftOpen t (.unmatchedParenthesis t.span)
  | call : t.kind = .openParen → LeftOpen t (.unterminatedParameters t.span)
  | index : t.kind = .openBracket → LeftOpen t (.unterminatedIndex t.span)

theorem Token.LeftOpen.isWithin {t : Token} {problem : Problem} (h : t.LeftOpen problem)
    (s : Span) : Diagnostic.IsWithin ⟨problem, s⟩ := by
  cases h <;> exact ⟨rfl, rfl⟩

section

variable {P : Diagnostic → Prop} {ts : List Token}

/-- What reading reports has a property when problems without a note have it and brackets left open
do, which are reported from the bracket on. -/
theorem Reads.reported
    (hplain : ∀ problem s, problem.note? = none → Diagnostic.IsWithin ⟨problem, s⟩ →
      P ⟨problem, s⟩)
    (hopen : ∀ problem, ∀ t ∈ ts, t.LeftOpen problem → ∀ stop, P ⟨problem, ⟨t.span.start, stop⟩⟩)
    {r q : Reader} {x : Piece} (h : Reads r x q) (hts : r.tokens <:+ ts) (hd : r.Reported P) :
    q.Reported P := by
  have hnext : ∀ {r : Reader}, r.tokens <:+ ts → r.advance.tokens <:+ ts :=
    fun {r} hts => r.advance_leads.tokens.trans hts
  have hbehind : ∀ {r q : Reader}, r.Leads q → r.tokens <:+ ts → q.tokens <:+ ts :=
    fun h hts => h.tokens.trans hts
  have hbracket : ∀ {r : Reader} {k : TokenKind}, r.kind = k → k ≠ .eof → r.tokens <:+ ts →
      r.token ∈ ts ∧ r.token.kind = k := by
    intro r k hk hne hts
    obtain ⟨hmem, hkind⟩ := Reader.token_mem_of_kind hk hne
    exact ⟨hts.subset hmem, hkind⟩
  induction h with
  | number | string | name => exact hd.advance
  | unterminated => exact hd.advance.report (hplain _ _ rfl ⟨rfl, rfl⟩)
  | missing _ hnote hcode =>
    refine hd.report (hplain _ _ hnote ?_)
    rcases hcode with hcode | hcode <;> simp [Diagnostic.IsWithin, Diagnostic.code, hcode,
      Code.isForm, Code.isLeftover]
  | unexpected => exact (hd.advance.skip _).report (hplain _ _ rfl ⟨rfl, rfl⟩)
  | tooDeep => exact (hd.skip _).report (hplain _ _ rfl ⟨rfl, rfl⟩)
  | group _ _ _ ih =>
    exact (ih (hnext hts) hd.advance).advance.afterGroup (hplain _ _ rfl ⟨rfl, rfl⟩) _
  | unclosed hk _ _ ih =>
    obtain ⟨hmem, hkind⟩ := hbracket hk (by decide) hts
    exact (ih (hnext hts) hd.advance).report (hopen _ _ hmem (.group hkind) _)
  | signed _ _ ih | access _ _ _ ih => exact ih (hnext hts) hd.advance
  | operation ha _ _ iha ihc | argument ha _ _ iha ihc =>
    exact ihc (hnext (hbehind ha.leads hts)) (iha hts hd).advance
  | emptyCall hh => exact (hh.reported hd).advance.advance
  | call hh hk _ _ ih =>
    have hcall := hbehind hh.leads hts
    obtain ⟨hmem, hkind⟩ := hbracket hk (by decide) hcall
    exact (ih (hnext hcall) (hh.reported hd).advance).afterInside
      (hopen _ _ hmem (.call hkind) _)
  | bareCall hh => exact (hh.reported hd).report (hplain _ _ rfl ⟨rfl, rfl⟩)
  | noFunction _ _ _ _ hp =>
    rw [hp]
    exact hd.advance.advance.advance.advance.report (hplain _ _ rfl ⟨rfl, rfl⟩)
  | lastArgument _ _ ih => exact ih hts hd
  | noAccessor => exact hd
  | noChild => exact hd.advance.report (hplain _ _ rfl ⟨rfl, rfl⟩)
  | child _ _ _ ih => exact ih (hnext (hnext hts)) hd.advance.advance
  | index _ he _ _ ihe ihas =>
    exact ihas (hnext (hbehind he.leads (hnext hts))) (ihe (hnext hts) hd.advance).advance
  | openIndex hk _ _ ih =>
    obtain ⟨hmem, hkind⟩ := hbracket hk (by decide) hts
    exact (ih (hnext hts) hd.advance).report (hopen _ _ hmem (.index hkind) _)

/-- What is found while reading a text has a property when moreover what is left behind the
expression has it. -/
theorem reported_parse {source : String}
    (hplain : ∀ problem s, problem.note? = none → problem.code.isForm = true → P ⟨problem, s⟩)
    (hopen : ∀ problem, ∀ t ∈ Token.lex source, t.LeftOpen problem →
      ∀ stop, P ⟨problem, ⟨t.span.start, stop⟩⟩) :
    ∀ d ∈ (parse source).diagnostics, P d := by
  intro d h
  unfold parse at h
  dsimp only at h
  split at h
  · cases h
  · have hreads := expression_reads nestingLimit 0 (Reader.start source)
    have hwithin : Reader.Reported P _ :=
      hreads.reported (fun problem s hnote h => hplain problem s hnote h.1) hopen
        (List.suffix_refl _) nofun
    refine hwithin.closeText ?_ d h
    simp only [List.forall_mem_cons]
    exact ⟨hplain _ _ rfl rfl, hplain _ _ rfl rfl, nofun⟩

end

/-- What reading reports is about the form of the expression when what was reported before is. -/
theorem Reads.reported_within {r q : Reader} {x : Piece} (h : Reads r x q)
    (hd : r.Reported Diagnostic.IsWithin) : q.Reported Diagnostic.IsWithin :=
  h.reported (fun _ _ _ h => h) (fun _ _ _ h _ => h.isWithin _) (List.suffix_refl _) hd

/-- What is found while reading a text is about its form. -/
theorem parse_isForm {source : String} {d : Diagnostic} (h : d ∈ (parse source).diagnostics) :
    d.code.isForm = true :=
  reported_parse (P := (·.code.isForm = true)) (fun _ _ _ h => h)
    (fun _ _ _ h _ => (h.isWithin (.point 0)).1) d h

end EventSheet
