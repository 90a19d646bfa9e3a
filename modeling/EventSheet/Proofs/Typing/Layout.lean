import EventSheet.Proofs.Reading.Likeness
import EventSheet.Proofs.Typing.Acceptance
import EventSheet.Proofs.Typing.Likeness

/-!
# Layout

Where no node has the span of a node below it, a type error covers an argument exactly when it is
told at the argument itself, so that trees of the same form are checked alike: `Expr.check_alike`.
Reading is alike for the same tokens, and the tokens are the same whatever blanks stand between
them. So the layout of a text does not matter: `checkText_respaced`.
-/

namespace EventSheet

/-! ### Trees -/

/-- Trees of the same form that are checked alike, wherever values of any type are required. -/
def AlikeChecks (ctx : Context) (e e' : Expr) : Prop :=
  ∀ expected, AlikeVerdicts e.span e'.span (e.check ctx expected) (e'.check ctx expected)

section

variable {ctx : Context} {e e' : Expr} {s s' : Span}

/-- What is told below two nodes covers neither. -/
theorem AlikeVerdicts.above {c c' : Expr} {expected : SemanticType} (he : e.Apart) (he' : e'.Apart)
    (hc : c ∈ e.children) (hc' : c' ∈ e'.children)
    (h : AlikeVerdicts c.span c'.span (c.check ctx expected) (c'.check ctx expected)) :
    AlikeVerdicts e.span e'.span (c.check ctx expected) (c'.check ctx expected) :=
  ⟨h.type,
    told_eq_of_uncovered (problems_eq_of_told h.told) (he.uncovered hc) (he'.uncovered hc')⟩

theorem problems_flatMap_of_form {es es' : List Expr}
    (hforms : es.map Expr.form = es'.map Expr.form)
    (h : ∀ c ∈ es, ∀ c' ∈ es', c.form = c'.form → AlikeChecks ctx c c') (expected : SemanticType) :
    (es.flatMap fun c => (c.check ctx expected).diagnostics).map (·.problem) =
      (es'.flatMap fun c => (c.check ctx expected).diagnostics).map (·.problem) := by
  induction es generalizing es' with
  | nil =>
    cases es' with
    | nil => rfl
    | cons => exact nomatch hforms
  | cons c es ih =>
    cases es' with
    | nil => exact nomatch hforms
    | cons c' es' =>
      obtain ⟨hform, hforms⟩ := List.cons.inj hforms
      have hfirst := (h c (.head _) c' (.head _) hform expected).told
      rw [List.flatMap_cons, List.flatMap_cons, List.map_append, List.map_append,
        problems_eq_of_told hfirst, ih hforms fun d hd d' hd' => h d (.tail _ hd) d' (.tail _ hd')]

/-- What is told below two nodes with children of the same forms covers neither of them. -/
theorem told_flatMap_of_form (he : e.Apart) (he' : e'.Apart)
    (hforms : e.children.map Expr.form = e'.children.map Expr.form)
    (h : ∀ c ∈ e.children, ∀ c' ∈ e'.children, c.form = c'.form → AlikeChecks ctx c c')
    (expected : SemanticType) :
    (e.children.flatMap fun c => (c.check ctx expected).diagnostics).map (·.toldAt e.span) =
      (e'.children.flatMap fun c => (c.check ctx expected).diagnostics).map (·.toldAt e'.span) :=
  told_eq_of_uncovered (problems_flatMap_of_form hforms h expected) (he.uncovered_flatMap expected)
    (he'.uncovered_flatMap expected)

theorem problems_checkArguments_of_form {es es' : List Expr} {context : Option String}
    {position : Nat} {ps : List Parameter} (hforms : es.map Expr.form = es'.map Expr.form)
    (h : ∀ c ∈ es, ∀ c' ∈ es', c.form = c'.form → AlikeChecks ctx c c') :
    (checkArguments ctx context position es ps).map (·.problem) =
      (checkArguments ctx context position es' ps).map (·.problem) := by
  induction es generalizing es' context position ps with
  | nil =>
    cases es' with
    | nil => rfl
    | cons => exact nomatch hforms
  | cons c es ih =>
    cases es' with
    | nil => exact nomatch hforms
    | cons c' es' =>
      obtain ⟨hform, hforms⟩ := List.cons.inj hforms
      cases ps with
      | nil => simp [checkArguments]
      | cons p ps =>
        have hargument : Argument.Alike ⟨c, fun expected => c.check ctx expected, p, position⟩
            ⟨c', fun expected => c'.check ctx expected, p, position⟩ :=
          ⟨hform, h c (.head _) c' (.head _) hform, rfl, rfl⟩
        rw [checkArguments, checkArguments, List.map_append, List.map_append,
          hargument.diagnostics, hargument.contextAfter_eq,
          ih hforms fun d hd d' hd' => h d (.tail _ hd) d' (.tail _ hd')]

theorem checkLiteral_alike (found expected : SemanticType) (s s' : Span) :
    AlikeVerdicts s s' (checkLiteral found expected s) (checkLiteral found expected s') := by
  unfold checkLiteral
  refine ⟨rfl, ?_⟩
  dsimp only
  split
  · rfl
  · rw [List.map_singleton, List.map_singleton, toldAt_self _ s s']

theorem checkIdentifier_alike (name : String) (expected : SemanticType) (s s' : Span) :
    AlikeVerdicts s s' (checkIdentifier name expected s) (checkIdentifier name expected s') := by
  unfold checkIdentifier
  split
  · exact ⟨rfl, rfl⟩
  · exact ⟨rfl, rfl⟩
  · exact ⟨rfl, rfl⟩
  · refine ⟨rfl, ?_⟩
    rw [List.map_singleton, List.map_singleton, toldAt_self _ s s']

theorem checkEmpty_alike (expected : SemanticType) (s s' : Span) :
    AlikeVerdicts s s' (checkEmpty expected s) (checkEmpty expected s') := by
  have hself := toldAt_self (.emptyExpression expected) s s'
  cases expected with
  | number | string | numberOrString | object | var =>
    refine ⟨rfl, ?_⟩
    rw [checkEmpty, checkEmpty, List.map_singleton, List.map_singleton, hself]
  | boolean | unknown | empty => exact ⟨rfl, rfl⟩

theorem checkAccess_alike {inside inside' : List Diagnostic}
    (h : inside.map (·.toldAt s) = inside'.map (·.toldAt s')) (expected : SemanticType) :
    AlikeVerdicts s s' (checkAccess inside expected s) (checkAccess inside' expected s') := by
  unfold checkAccess
  split
  · exact ⟨rfl, h⟩
  · exact ⟨rfl, h⟩
  · refine ⟨rfl, ?_⟩
    rw [List.map_append, List.map_append, h, List.map_singleton, List.map_singleton,
      toldAt_self _ s s']

/-- What an operation tells of itself. -/
theorem told_toList (problem? : Option Problem) (s s' : Span) :
    (problem?.map (Diagnostic.mk · s)).toList.map (·.toldAt s) =
      (problem?.map (Diagnostic.mk · s')).toList.map (·.toldAt s') := by
  cases problem? with
  | none => rfl
  | some problem =>
    rw [Option.map_some, Option.map_some, Option.toList_some, Option.toList_some,
      List.map_singleton, List.map_singleton, toldAt_self _ s s']

/-- Nodes of the same form, with no node below them that covers them and with children that are
checked alike. -/
structure AlikeNodes (ctx : Context) (e e' : Expr) : Prop where
  form : e.form = e'.form
  apart : e.Apart
  apart' : e'.Apart
  children : ∀ c ∈ e.children, ∀ c' ∈ e'.children, c.form = c'.form → AlikeChecks ctx c c'

namespace AlikeNodes

theorem child (h : AlikeNodes ctx e e') {c c' : Expr} (hc : c ∈ e.children) (hc' : c' ∈ e'.children)
    (hform : c.form = c'.form) (expected : SemanticType) :
    AlikeVerdicts e.span e'.span (c.check ctx expected) (c'.check ctx expected) :=
  (h.children c hc c' hc' hform expected).above h.apart h.apart' hc hc'

theorem access {name : Name} {as : List Accessor} (h : AlikeNodes ctx (.access name as s) e') :
    AlikeChecks ctx (.access name as s) e' := by
  obtain ⟨name', as', s', rfl, has⟩ := Expr.eq_access_of_form h.form
  intro expected
  have hinside := told_flatMap_of_form h.apart h.apart' (map_form_indices_of_form has) h.children
    .numberOrString
  rw [Expr.check, Expr.check]
  refine checkAccess_alike ?_ expected
  rw [checkIndices_eq_flatMap, checkIndices_eq_flatMap]
  exact hinside

theorem unary {sign : Sign} {a : Expr} (h : AlikeNodes ctx (.unary sign a s) e') :
    AlikeChecks ctx (.unary sign a s) e' := by
  obtain ⟨a', s', rfl, ha⟩ := Expr.eq_unary_of_form h.form
  have hvalue := h.child (.head _) (.head _) ha
  intro expected
  rw [Expr.check, Expr.check]
  split
  · refine ⟨rfl, ?_⟩
    rw [List.map_cons, List.map_cons, (hvalue .unknown).told]
    exact congrArg (· :: _) (toldAt_self _ s s')
  · refine ⟨rfl, ?_⟩
    rw [List.map_append, List.map_append, (hvalue .number).told]
    exact congrArg (· ++ _) (told_toList _ s s')

theorem binary {operator : Operator} {a b : Expr} (h : AlikeNodes ctx (.binary operator a b s) e') :
    AlikeChecks ctx (.binary operator a b s) e' := by
  obtain ⟨a', b', s', rfl, ha, hb⟩ := Expr.eq_binary_of_form h.form
  have hleft := h.child (.head _) (.head _) ha
  have hright := h.child (.tail _ (.head _)) (.tail _ (.head _)) hb
  intro expected
  rw [Expr.check, Expr.check]
  split
  · refine ⟨rfl, ?_⟩
    rw [List.map_cons, List.map_cons, List.map_append, List.map_append, (hleft .unknown).told,
      (hright .unknown).told]
    exact congrArg (· :: _) (toldAt_self _ s s')
  · dsimp only
    rw [← (hleft expected).type]
    refine ⟨rfl, ?_⟩
    rw [List.map_append, List.map_append, List.map_append, List.map_append, (hleft expected).told,
      (hright _).told]
    apply congrArg (List.append _)
    exact congrArg (· ++ _) (told_toList _ s s')

theorem call {callee : Callee} {es : List Expr} (h : AlikeNodes ctx (.call callee es s) e') :
    AlikeChecks ctx (.call callee es s) e' := by
  obtain ⟨callee', es', s', rfl, hcallee, hes⟩ := Expr.eq_call_of_form h.form
  have hlen : es.length = es'.length := by
    rw [← List.length_map, hes, List.length_map]
  intro expected
  have hresolve : AlikeResolutions s s' (ctx.resolve expected callee es s)
      (ctx.resolve expected callee' es' s') := Context.resolve_alike hcallee hlen expected
  have hobject : callee.object?.map (·.text) = callee'.object?.map (·.text) := by
    rw [← callee.object?_form, hcallee, callee'.object?_form]
  have himplied : callee.impliedParameters = callee'.impliedParameters := by
    rw [← callee.impliedParameters_form, hcallee, callee'.impliedParameters_form]
  rw [Expr.check, Expr.check]
  rcases hresolve.outcome with ⟨f, hok, hok'⟩ | ⟨d, d', herror, herror', htold⟩
  · rw [hok, hok']
    refine ⟨hresolve.type, ?_⟩
    refine told_eq_of_uncovered ?_ (h.apart.uncovered_arguments rfl)
      (h.apart'.uncovered_arguments rfl)
    rw [hobject, himplied]
    exact problems_checkArguments_of_form hes h.children
  · rw [herror, herror']
    refine ⟨hresolve.type, ?_⟩
    have hinside := told_flatMap_of_form h.apart h.apart' hes h.children .unknown
    dsimp only
    rw [List.map_cons, List.map_cons, checkLoosely_eq_flatMap, checkLoosely_eq_flatMap]
    exact congr (congrArg List.cons htold) hinside

end AlikeNodes

/-- Trees of the same form in which no node covers a node above it are checked alike. -/
theorem Expr.check_alike (hform : e.form = e'.form) (he : ∀ n ∈ e.nodes, n.Apart)
    (he' : ∀ n ∈ e'.nodes, n.Apart) : AlikeChecks ctx e e' := by
  induction e using Expr.induction_children generalizing e' with
  | step e ih =>
    have hnodes : AlikeNodes ctx e e' := by
      refine ⟨hform, he e (.head _), he' e' (.head _), ?_⟩
      intro c hc c' hc' hform
      refine ih c hc hform ?_ ?_
      · exact fun n hn => he n (mem_nodes_of_child hc hn)
      · exact fun n hn => he' n (mem_nodes_of_child hc' hn)
    cases e with
    | access name as s => exact hnodes.access
    | unary sign a s => exact hnodes.unary
    | binary operator a b s => exact hnodes.binary
    | call callee es s => exact hnodes.call
    | number text s =>
      obtain ⟨s', rfl⟩ := eq_number_of_form hform
      intro expected
      rw [check, check]
      exact checkLiteral_alike _ _ _ _
    | string value s =>
      obtain ⟨s', rfl⟩ := eq_string_of_form hform
      intro expected
      rw [check, check]
      exact checkLiteral_alike _ _ _ _
    | identifier name s =>
      obtain ⟨s', rfl⟩ := eq_identifier_of_form hform
      intro expected
      rw [check, check]
      exact checkIdentifier_alike _ _ _ _
    | empty s =>
      obtain ⟨s', rfl⟩ := eq_empty_of_form hform
      intro expected
      rw [check, check]
      exact checkEmpty_alike _ _ _
    | error reason text s =>
      obtain ⟨text', s', rfl⟩ := eq_error_of_form hform
      intro expected
      rw [check, check]
      exact ⟨rfl, rfl⟩

end

/-- Layout does not matter. A text with other blanks before, between and behind its tokens has the
same tokens, the same tree and the same type, and the user is told the same of it in the same order,
places and the text of error nodes aside. -/
theorem checkText_respaced {source target : String} (h : Respaced source target) (ctx : Context)
    (expected : SemanticType) :
    (Token.tokenize target).map Token.form = (Token.tokenize source).map Token.form ∧
      (checkText ctx expected target).root.form = (checkText ctx expected source).root.form ∧
      (checkText ctx expected target).type = (checkText ctx expected source).type ∧
      (checkText ctx expected target).diagnostics.map Diagnostic.told =
        (checkText ctx expected source).diagnostics.map Diagnostic.told := by
  obtain ⟨hform, hproblems⟩ := parse_alike (Token.form_lex_respaced h)
  have hcheck : AlikeVerdicts _ _ ((parse target).root.check ctx expected)
      ((parse source).root.check ctx expected) :=
    Expr.check_alike hform (parse_apart target) (parse_apart source) expected
  refine ⟨Token.form_tokenize_respaced h, hform, hcheck.type, ?_⟩
  have hfound := congrArg (List.map Problem.form) (problems_eq_of_told hcheck.told)
  rw [List.map_map, List.map_map] at hfound
  apply Diagnostic.map_told_of_form
  rw [checkText, checkText, List.map_append, List.map_append, hproblems]
  exact congrArg (_ ++ ·) hfound

theorem checkText_respaced_sum :
    Respaced "1+((\"a\"))" " 1\t+ (\n(\r\"a\" ) ) " ∧
      (checkText .bare .number " 1\t+ (\n(\r\"a\" ) ) ").diagnostics.map Diagnostic.told =
        (checkText .bare .number "1+((\"a\"))").diagnostics.map Diagnostic.told := by
  have hlex : Token.lex "1+((\"a\"))" =
      [⟨.number, "1", ⟨0, 1⟩⟩, ⟨.plus, "+", ⟨1, 2⟩⟩, ⟨.openParen, "(", ⟨2, 3⟩⟩,
        ⟨.openParen, "(", ⟨3, 4⟩⟩, ⟨.string, "\"a\"", ⟨4, 7⟩⟩, ⟨.closeParen, ")", ⟨7, 8⟩⟩,
        ⟨.closeParen, ")", ⟨8, 9⟩⟩] := by
    decide +kernel
  have hspaced : Respaced "1+((\"a\"))" " 1\t+ (\n(\r\"a\" ) ) " := by
    rw [Respaced, hlex]
    refine ⟨[' '], _, by decide, ?_, .cons_blank (c := '\t') (by decide) (by decide)
      (.cons_blank (c := ' ') (by decide) (by decide)
      (.cons_blank (c := '\n') (by decide) (by decide)
      (.cons_blank (c := '\r') (by decide) (by decide)
      (.cons_blank (c := ' ') (by decide) (by decide)
      (.cons_blank (c := ' ') (by decide) (by decide)
      (.cons_blank (c := ' ') (by decide) (by decide) .nil))))))⟩
    decide +kernel
  exact ⟨hspaced, (checkText_respaced hspaced .bare .number).2.2.2⟩

end EventSheet
