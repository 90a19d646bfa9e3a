import EventSheet.Proofs.CommandLine.Lines
import EventSheet.Proofs.Reading.Spelling
import EventSheet.Proofs.Syntax.Shown

/-!
# The listed tree of a text

Nothing that stands on a line of a listed tree breaks the line: names and numbers are tokens, and
texts are quoted. Names in a path can be told apart, since no token holds the signs between them. So
the listing of a text shows the lines of the outline of its tree, and two texts are listed alike
exactly when their trees are shown alike: `listing_determines_tree`.
-/

namespace EventSheet

/-- A line is broken by nothing but what is said on it. -/
theorem Entry.break_not_mem_line {e : Entry} (h : ∀ said ∈ e.said, '\n' ∉ said.toList) :
    '\n' ∉ e.line.toList := by
  have hkind : '\n' ∉ e.kind.name.toList :=
    fun hmem => absurd (e.kind.isUpper_of_mem _ hmem) (by decide)
  have hdigits : ∀ n, '\n' ∉ Nat.toDigits 10 n :=
    fun n hmem => absurd (Nat.isDigit_of_mem_toDigits (by decide) (by decide) hmem) (by decide)
  have htail : '\n' ∉ e.tail := by
    obtain ⟨kind, s, said⟩ := e
    cases said with
    | none => exact List.not_mem_nil
    | some said => simpa [tail] using h said rfl
  simp [toList_line, hkind, hdigits, htail]

theorem Callee.break_not_mem_path {c : Callee} (h : ∀ name ∈ c.names, '\n' ∉ name.text.toList) :
    '\n' ∉ c.path.toList := by
  cases c <;> simp [names] at h <;> simp [path, h]

/-- The names of a node are spelled out. -/
theorem Expr.mem_words_of_mem_names {n : Expr} {name : Name} (h : name ∈ n.names) :
    (.ident, name.text) ∈ n.words := by
  cases n with
  | access name as s =>
    rw [List.mem_singleton.1 h]
    exact .head _
  | call callee es s => exact List.mem_map_of_mem h
  | _ => exact nomatch h

/-- The names of children are spelled out. -/
theorem mem_accessorWords {as : List Accessor} {name : String} {s : Span}
    (h : .child name s ∈ as) : (.ident, name) ∈ accessorWords as :=
  List.mem_filterMap.2 ⟨_, h, rfl⟩

theorem break_not_mem_listedLine {depth : Nat} {e : Entry}
    (h : ∀ said ∈ e.said, '\n' ∉ said.toList) : '\n' ∉ (listedLine (depth, e)).toList := by
  simp [listedLine, indentation, e.break_not_mem_line h]

section

variable {source : String} {n : Expr} (hn : n ∈ (parse source).root.nodes)

include hn

theorem mem_tokens_of_words {w : TokenKind × String} (hw : w ∈ n.words) :
    w ∈ (Token.lex source).map Token.form :=
  parse_words_subset source (List.mem_flatMap.2 ⟨n, hn, hw⟩)

/-- What is said on the lines of a node and its accessors breaks none of them. -/
theorem break_not_mem_said {e : Entry} (he : e ∈ n.entries) :
    ∀ said ∈ e.said, '\n' ∉ said.toList := by
  have hname : ∀ text, (.ident, text) ∈ n.words → '\n' ∉ text.toList :=
    fun text hw => (separators_not_mem_name (mem_tokens_of_words hn hw)).2.2
  have hnumber : ∀ text, (.number, text) ∈ n.words → '\n' ∉ text.toList :=
    fun text hw => break_not_mem_number (mem_tokens_of_words hn hw)
  rcases List.mem_cons.1 he with rfl | he
  · cases n with
    | number text s =>
      rintro said ⟨⟩
      exact hnumber _ (.head _)
    | string value s | error reason value s =>
      rintro said ⟨⟩
      exact Text.break_not_mem_quoted value
    | identifier name s =>
      rintro said ⟨⟩
      exact hname _ (.head _)
    | access name as s =>
      rintro said ⟨⟩
      exact hname _ (.head _)
    | unary sign a s =>
      rintro said ⟨⟩
      cases sign <;> decide
    | binary operator a b s =>
      rintro said ⟨⟩
      cases operator <;> decide
    | call callee es s =>
      rintro said ⟨⟩
      apply Callee.break_not_mem_path
      exact fun name h => hname _ (Expr.mem_words_of_mem_names (n := .call callee es s) h)
    | empty s => exact nofun
  · obtain ⟨a, ha, rfl⟩ := List.mem_map.1 he
    cases n with
    | access name as s =>
      cases a with
      | child child place =>
        rintro said ⟨⟩
        exact hname _ (.tail _ (mem_accessorWords ha))
      | index i place => exact nofun
    | _ => exact nomatch ha

end

/-- The names of a tree hold none of the signs that stand between names. -/
theorem plainNames_parse (source : String) : (parse source).root.PlainNames := by
  intro n hn name hname
  have hword := mem_tokens_of_words hn (Expr.mem_words_of_mem_names hname)
  obtain ⟨hpoint, hcolon, -⟩ := separators_not_mem_name hword
  exact ⟨hpoint, hcolon⟩

/-- The lines of a tree can be read off its listing. -/
theorem linesOf_dump_parse (source : String) :
    linesOf (endLines (parse source).root.dump) = (parse source).root.dump := by
  apply linesOf_endLines
  intro l hl
  rw [Expr.dump_eq_listing] at hl
  obtain ⟨⟨depth, e⟩, he, rfl⟩ := List.mem_map.1 hl
  have he : e ∈ ((parse source).root.outline.listing 0).map Prod.snd := List.mem_map_of_mem he
  obtain ⟨n, hn, he⟩ := List.mem_flatMap.1 ((Expr.listing_perm _ 0).mem_iff.1 he)
  exact break_not_mem_listedLine (break_not_mem_said hn he)

/-- The listing of a text has a line for every node of its tree, parents first, and one for every
accessor, and nothing else. Each is indented by its depth, where accessors stand one deeper than
their variable and an index another one deeper. The listing is that of another text exactly when the
trees of the two are the same but for the places of names and the reasons of errors. -/
theorem listing_determines_tree (source : String) :
    linesOf (treeOutcome source).output =
      ((parse source).root.outline.listing 0).map listedLine ∧
    (((parse source).root.outline.listing 0).map Prod.snd).filter Entry.isNode =
      (parse source).root.nodes.map Expr.entry ∧
    (((parse source).root.outline.listing 0).map Prod.snd).Perm
      ((parse source).root.nodes.flatMap Expr.entries) ∧
    (linesOf (treeOutcome source).output).length =
      ((parse source).root.nodes.map fun n => 1 + n.accessors.length).sum ∧
    ∀ other, (treeOutcome source).output = (treeOutcome other).output ↔
      (parse source).root.shown = (parse other).root.shown := by
  have hlines : ∀ source, linesOf (treeOutcome source).output = (parse source).root.dump :=
    linesOf_dump_parse
  refine ⟨?_, Expr.filter_isNode_listing _ 0, Expr.listing_perm _ 0, ?_, fun other => ?_⟩
  · rw [hlines, Expr.dump_eq_listing]
  · rw [hlines, Expr.length_dump]
  · rw [← Expr.dump_eq_iff (plainNames_parse source) (plainNames_parse other)]
    constructor
    · intro h
      rw [← hlines source, h, hlines other]
    · exact fun h => congrArg endLines h

/-- What is inside the brackets of an index is listed two levels below the variable. -/
example : linesOf (treeOutcome "a[b].c").output =
    ["VARIABLE@0..6 a", "  INDEX@1..4", "    IDENTIFIER@2..3 b", "  CHILD@4..6 c"] := by
  decide +kernel

end EventSheet
