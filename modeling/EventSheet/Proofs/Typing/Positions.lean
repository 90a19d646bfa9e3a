import EventSheet.Proofs.Reading.Positions
import EventSheet.Proofs.Typing.Telling
import EventSheet.Report.Basic

/-!
# Positions of what is reported

Checking tells of problems only at places that the tree has, and the places of a tree that was read
fit the text. So every position of a report can be handed to an editor: `checkText_positioned`.
-/

namespace EventSheet

section

variable {text : List Char}

theorem Span.Fits.foldl_merge {s : Span} {es : List Expr} (hs : s.Fits text)
    (h : ∀ e ∈ es, e.span.Fits text) : (es.foldl (fun s e => s.merge e.span) s).Fits text := by
  induction es generalizing s with
  | nil => exact hs
  | cons e es ih =>
    apply ih
    · exact hs.merge (h e (.head _))
    · exact fun e he => h e (.tail _ he)

theorem argumentsSpan_fits {e : Expr} {es : List Expr} (h : ∀ c ∈ e :: es, c.span.Fits text) :
    (argumentsSpan e es).Fits text :=
  (h e (.head _)).foldl_merge fun c hc => h c (.tail _ hc)

/-- Checking a tree whose places fit the text reports at places that fit the text. -/
theorem Expr.check_positioned {ctx : Context} {e : Expr} {expected : SemanticType} {d : Diagnostic}
    (he : ∀ n ∈ e.nodes, n.Positioned text) (hd : d ∈ (e.check ctx expected).diagnostics) :
    d.Positioned text := by
  induction e using Expr.induction_children generalizing expected with
  | step e ih =>
    have hchild : ∀ c ∈ e.children, ∀ n ∈ c.nodes, n.Positioned text :=
      fun c hc n hn => he n (mem_nodes_of_child hc hn)
    have hspan : ∀ c ∈ e.children, c.span.Fits text := fun c hc => (hchild c hc c (.head _)).span
    have hroot := he e (.head _)
    cases tells_of_mem_check hd with
    | self hmeant => exact .of_no_note hroot.span hmeant.note?
    | object hname => exact .of_no_note (hroot.names _ hname).span rfl
    | surplus hextra => exact .of_no_note (argumentsSpan_fits fun c hc => hspan c (hextra c hc)) rfl
    | argument hc hmeant => exact .of_no_note (hspan _ hc) hmeant.note?
    | child hc hd => exact ih _ hc (hchild _ hc) hd

end

/-- The places of all that a report tells fit the text. -/
theorem positioned_of_mem_checkText {ctx : Context} {expected : SemanticType} {source : String}
    {d : Diagnostic} (hd : d ∈ (checkText ctx expected source).diagnostics) :
    d.Positioned source.toList := by
  obtain ⟨hnodes, hreading⟩ := parse_positioned source
  rcases List.mem_append.1 hd with hd | hd
  · exact hreading d hd
  · exact Expr.check_positioned hnodes hd

/-- Every position of a report is valid. The span of every node, accessor and name of the tree and
of every diagnostic and note runs forward within the text and cuts no character at its ends, and a
name is the text that its span covers. -/
theorem checkText_positioned (ctx : Context) (expected : SemanticType) (source : String) :
    (∀ n ∈ (checkText ctx expected source).root.nodes,
      n.span.Fits source.toList ∧ (∀ a ∈ n.accessors, a.span.Fits source.toList) ∧
        ∀ name ∈ n.names, name.span.Fits source.toList ∧ name.span.slice source = name.text) ∧
    ∀ d ∈ (checkText ctx expected source).diagnostics,
      d.span.Fits source.toList ∧
        ∀ said s, d.problem.note? = some (said, s) → s.Fits source.toList := by
  constructor
  · intro n hn
    have hpositioned := (parse_positioned source).1 n hn
    refine ⟨hpositioned.span, hpositioned.accessors, ?_⟩
    intro name hname
    have hname := hpositioned.names name hname
    refine ⟨hname.span, ?_⟩
    rw [Span.slice, hname.spelled, Option.getD_some, String.ofList_toList]
  · intro d hd
    have hpositioned := positioned_of_mem_checkText hd
    exact ⟨hpositioned.span, hpositioned.note⟩

end EventSheet
