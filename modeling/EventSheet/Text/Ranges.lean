/-!
# Character classes as lists of ranges

A class of characters is written as a list of inclusive ranges of code points, the form in which
character properties are tabulated. `inRanges` decides membership; `inRanges_iff` says what it
decides.
-/

namespace EventSheet.Text

/-- Some range of the list contains the code point `n`. -/
def inRanges (ranges : List (Nat × Nat)) (n : Nat) : Bool :=
  ranges.any fun r => decide (r.1 ≤ n) && decide (n ≤ r.2)

theorem inRanges_iff {ranges : List (Nat × Nat)} {n : Nat} :
    inRanges ranges n = true ↔ ∃ r ∈ ranges, r.1 ≤ n ∧ n ≤ r.2 := by
  simp [inRanges]

end EventSheet.Text
