import EventSheet.Proofs.Lexing.Patterns
import EventSheet.Proofs.Reading.Productions
import EventSheet.Proofs.Syntax.Nodes

/-!
# Names and numbers of a tree

Every name and every number of a tree is the text of a token, the names in chains of accessors among
them, however much around it could not be read: `Reads.words_subset`. So no name holds one of the
signs that stand between names, and neither a name nor a number breaks a line.
-/

namespace EventSheet

/-- What a chain of accessors spells out. -/
def accessorWords (as : List Accessor) : List (TokenKind × String) :=
  as.filterMap fun
    | .child name _ => some (.ident, name)
    | .index _ _ => none

/-- What a callee spells out. -/
def Callee.words (callee : Callee) : List (TokenKind × String) :=
  callee.names.map fun name => (.ident, name.text)

/-- What a node spells out as it is written: its number and its names. -/
def Expr.words : Expr → List (TokenKind × String)
  | .number text _ => [(.number, text)]
  | .identifier name _ => [(.ident, name)]
  | .access name as _ => (.ident, name.text) :: accessorWords as
  | .call callee _ _ => callee.words
  | _ => []

@[simp] theorem Expr.words_withSpan (s : Span) (e : Expr) : (e.withSpan s).words = e.words := by
  cases e <;> rfl

/-- What the nodes of a piece and its accessors spell out. -/
def Piece.words : Piece → List (TokenKind × String)
  | expr e => e.nodes.flatMap Expr.words
  | arguments es => (argumentNodes es).flatMap Expr.words
  | accessors as => accessorWords as ++ (accessorNodes as).flatMap Expr.words

section

variable {W : List (TokenKind × String)} {r p q : Reader}

theorem Reader.word_mem {k : TokenKind} (hr : ∀ t ∈ r.tokens, t.form ∈ W) (h : r.kind = k)
    (hk : k ≠ .eof) : (k, r.token.text) ∈ W := by
  obtain ⟨hmem, rfl⟩ := token_mem_of_kind h hk
  exact hr _ hmem

theorem Reader.Leads.words (h : r.Leads q) (hr : ∀ t ∈ r.tokens, t.form ∈ W) :
    ∀ t ∈ q.tokens, t.form ∈ W :=
  fun t ht => hr t (h.tokens.subset ht)

theorem Heads.words_subset {callee : Callee} (h : Heads r callee p)
    (hr : ∀ t ∈ r.tokens, t.form ∈ W) : callee.words ⊆ W := by
  have hnext : ∀ t ∈ r.advance.advance.tokens, t.form ∈ W :=
    (r.advance_leads.trans (Reader.advance_leads _)).words hr
  cases h with
  | free hk => exact List.cons_subset.2 ⟨Reader.word_mem hr hk (by decide), List.nil_subset _⟩
  | onObject hk _ hk' =>
    exact List.cons_subset.2 ⟨Reader.word_mem hr hk (by decide),
      List.cons_subset.2 ⟨Reader.word_mem hnext hk' (by decide), List.nil_subset _⟩⟩
  | onBehavior hk _ hk' _ hk'' =>
    have hlast : ∀ t ∈ r.advance.advance.advance.advance.tokens, t.form ∈ W :=
      ((Reader.advance_leads _).trans (Reader.advance_leads _)).words hnext
    exact List.cons_subset.2 ⟨Reader.word_mem hr hk (by decide),
      List.cons_subset.2 ⟨Reader.word_mem hnext hk' (by decide),
        List.cons_subset.2 ⟨Reader.word_mem hlast hk'' (by decide), List.nil_subset _⟩⟩⟩

/-- What a piece spells out are tokens. -/
theorem Reads.words_subset {x : Piece} (h : Reads r x q) (hr : ∀ t ∈ r.tokens, t.form ∈ W) :
    x.words ⊆ W := by
  have hleaf : ∀ {e : Expr}, e.descendants = [] → e.words ⊆ W → (Piece.expr e).words ⊆ W := by
    intro e hnone hwords
    rw [Piece.words, Expr.nodes, hnone, List.flatMap_singleton]
    exact hwords
  have hadvance : ∀ {r : Reader}, (∀ t ∈ r.tokens, t.form ∈ W) →
      ∀ t ∈ r.advance.tokens, t.form ∈ W :=
    fun {r} hr => r.advance_leads.words hr
  induction h with
  | number hk | name hk =>
    exact hleaf rfl (List.cons_subset.2 ⟨Reader.word_mem hr hk (by decide), List.nil_subset _⟩)
  | string | unterminated | missing | unexpected | tooDeep | unclosed | noFunction =>
    exact hleaf rfl (List.nil_subset _)
  | group _ _ _ ih =>
    have hc := ih (hadvance hr)
    simp only [Piece.words, Expr.nodes, List.flatMap_cons, Expr.words_withSpan,
      Expr.descendants_withSpan] at hc ⊢
    exact hc
  | signed _ _ ih => exact ih (hadvance hr)
  | operation ha _ _ iha ihc =>
    have hright := ihc (hadvance (ha.leads.words hr))
    simp only [Piece.words, Expr.nodes, Expr.descendants, Expr.words, List.flatMap_append,
      List.flatMap_cons, List.nil_append, List.append_subset] at iha hright ⊢
    exact ⟨(iha hr).1, (iha hr).2, hright⟩
  | emptyCall hh | bareCall hh => exact hleaf rfl (hh.words_subset hr)
  | call hh _ _ _ ih =>
    exact List.append_subset.2 ⟨hh.words_subset hr, ih (hadvance (hh.leads.words hr))⟩
  | lastArgument _ _ ih => simpa [Piece.words, argumentNodes, Expr.nodes] using ih hr
  | argument he _ _ ihe ihes =>
    have hrest := ihes (hadvance (he.leads.words hr))
    simp only [Piece.words, argumentNodes, Expr.nodes, List.flatMap_cons, List.flatMap_append,
      List.append_subset] at ihe hrest ⊢
    exact ⟨(ihe hr).1, (ihe hr).2, hrest⟩
  | access hk _ _ ih =>
    exact List.cons_subset.2 ⟨Reader.word_mem hr hk (by decide), ih (hadvance hr)⟩
  | noAccessor | noChild => exact List.nil_subset _
  | child _ hk _ ih =>
    exact List.cons_subset.2
      ⟨Reader.word_mem (hadvance hr) hk (by decide), ih (hadvance (hadvance hr))⟩
  | index _ he _ _ ihe ihas =>
    have hindex := ihe (hadvance hr)
    have hrest := ihas (hadvance (he.leads.words (hadvance hr)))
    obtain ⟨hnames, hnodes⟩ := List.append_subset.1 hrest
    refine List.append_subset.2 ⟨hnames, ?_⟩
    rw [accessorNodes, ← List.cons_append, ← Expr.nodes, List.flatMap_append]
    exact List.append_subset.2 ⟨hindex, hnodes⟩
  | openIndex _ _ _ ih =>
    simpa [Piece.words, accessorWords, accessorNodes, Expr.nodes] using ih (hadvance hr)

end

/-- What the tree of a text spells out are tokens of the text. -/
theorem parse_words_subset (source : String) :
    (parse source).root.nodes.flatMap Expr.words ⊆ (Token.lex source).map Token.form := by
  unfold parse
  dsimp only
  split
  · exact List.nil_subset _
  · exact (expression_reads nestingLimit 0 (Reader.start source)).words_subset
      fun t ht => List.mem_map_of_mem ht

/-! ### The characters of names and numbers -/

theorem isNamePart_of_isNameStart {c : Char} (h : isNameStart c = true) : isNamePart c = true := by
  simp only [isNameStart, isNamePart, Bool.or_eq_true] at h ⊢
  exact h.imp Text.isAlphanumeric_of_isAlphabetic id

theorem Lexeme.Matches.isNamePart_of_mem {text rest : List Char} (h : Matches .ident text rest) :
    ∀ c ∈ text, isNamePart c = true := by
  cases h with
  | ident hstart hparts => exact List.forall_mem_cons.2 ⟨isNamePart_of_isNameStart hstart, hparts⟩
  | sign hsign => simp [signs] at hsign

theorem NumberText.break_not_mem {cs : List Char} (h : NumberText cs) : '\n' ∉ cs := by
  have hdigits : ∀ {ds}, AllDigits ds → '\n' ∉ ds := fun h hmem => absurd (h _ hmem) (by decide)
  cases h with
  | whole _ hds => exact hdigits hds
  | pointed _ hds hes => simp [hdigits hds, hdigits hes]
  | fraction _ hes => simp [hdigits hes]

section

variable {source text : String}

/-- The words of a text are written as tokens of their kinds are. -/
theorem exists_matches_of_word {kind : TokenKind}
    (h : (kind, text) ∈ (Token.lex source).map Token.form) :
    ∃ rest, Lexeme.Matches kind text.toList rest := by
  obtain ⟨t, ht, hform⟩ := List.mem_map.1 h
  obtain ⟨before, c, cs, -, hc, rfl⟩ := Token.exists_first_of_mem_lexFrom ht
  obtain ⟨rfl, rfl⟩ := Prod.mk.inj hform
  refine ⟨(Lexeme.first c cs).rest, ?_⟩
  rw [String.toList_ofList]
  exact Lexeme.first_matches hc cs

/-- No name holds a point, a colon or a line break. -/
theorem separators_not_mem_name (h : (.ident, text) ∈ (Token.lex source).map Token.form) :
    '.' ∉ text.toList ∧ ':' ∉ text.toList ∧ '\n' ∉ text.toList := by
  obtain ⟨rest, hmatches⟩ := exists_matches_of_word h
  have hnot : ∀ c, isNamePart c = false → c ∉ text.toList :=
    fun c hc hmem => by simp [hmatches.isNamePart_of_mem c hmem] at hc
  exact ⟨hnot _ (by decide +kernel), hnot _ (by decide +kernel),
    hnot _ (refusesBlanks_isNamePart _ rfl)⟩

/-- No number holds a line break. -/
theorem break_not_mem_number (h : (.number, text) ∈ (Token.lex source).map Token.form) :
    '\n' ∉ text.toList := by
  obtain ⟨rest, hmatches⟩ := exists_matches_of_word h
  exact hmatches.numberText.break_not_mem

end

end EventSheet
