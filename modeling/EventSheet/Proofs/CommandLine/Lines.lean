import EventSheet.CommandLine.Run
import EventSheet.Proofs.Json.Writing

/-!
# Lines of output

Every line of an output is ended by a break. A JSON value is written without a break, whatever texts
are in it, so that an output with a value on each line can be taken apart again:
`linesOf_compact`. Diagnostics, summaries and failures are such values.
-/

namespace EventSheet

/-- The lines of a text, whether or not the last one is ended. -/
def linesOf (text : String) : List String :=
  let pieces := text.toList.splitOn '\n'
  (if pieces.getLast? = some [] then pieces.dropLast else pieces).map String.ofList

theorem toList_endLines_cons (l : String) (ls : List String) :
    (endLines (l :: ls)).toList = l.toList ++ '\n' :: (endLines ls).toList := by
  simp [endLines, String.toList_join]

/-- Lines without a break are the lines of the text that they are written as. -/
theorem linesOf_endLines {ls : List String} (h : ∀ l ∈ ls, '\n' ∉ l.toList) :
    linesOf (endLines ls) = ls := by
  -- Behind the last break there is an empty piece, which is no line.
  have hsplit : (endLines ls).toList.splitOn '\n' = ls.map String.toList ++ [[]] := by
    induction ls with
    | nil => simp [endLines]
    | cons l ls ih =>
      have hl : '\n' ∉ l.toList := h l (.head _)
      rw [toList_endLines_cons, List.splitOn_append_cons_self_of_not_mem hl,
        ih fun l hl => h l (.tail _ hl)]
      rfl
  rw [linesOf, hsplit]
  simp

namespace Json

end Json

theorem labelJson_visible (label : String) (s : Span) : (labelJson label s).Visible := by
  apply Json.visible_object
  simp [Member.value, Json.visible_nat, Json.visible_string]

/-- A diagnostic is written without control characters. -/
theorem Diagnostic.toJson_visible (d : Diagnostic) (lines : LineIndex) (file : String) :
    (d.toJson lines file).Visible := by
  have hlabels : (Json.array d.labels).Visible := by
    apply Json.visible_array
    intro j hj
    rcases List.mem_cons.1 hj with rfl | hj
    · exact labelJson_visible _ _
    · obtain ⟨note, -, rfl⟩ := Option.map_eq_some_iff.1 (Option.mem_toList.1 hj)
      exact labelJson_visible _ _
  apply Json.visible_object
  simp [Member.value, Json.visible_nat, Json.visible_string, Json.visible_ofOption, hlabels]

end EventSheet
