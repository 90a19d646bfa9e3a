import EventSheet.Text.Span

/-!
# Lines and columns

A `LineIndex` holds the byte offsets at which the lines of a text start. `LineIndex.position` turns
an offset into a line and a column, both counted from one, the column in bytes; an offset past the
end belongs to the last line.
-/

namespace EventSheet

/-- The offsets at which lines start, in increasing order. -/
structure LineIndex where
  starts : List Nat

/-- A line and a column, both counted from one. -/
structure Position where
  line : Nat
  column : Nat
  deriving DecidableEq

namespace LineIndex

/-- The offsets just after each line feed of a text that begins at `offset`. -/
def startsFrom (offset : Nat) : List Char → List Nat
  | [] => []
  | c :: cs =>
    let next := offset + c.utf8Size
    if c = '\n' then next :: startsFrom next cs else startsFrom next cs

/-- The lines of a text; the first starts at offset zero. -/
def ofText (text : String) : LineIndex := ⟨0 :: startsFrom 0 text.toList⟩

/-- The number of lines, one more than the number of line feeds. -/
def count (lines : LineIndex) : Nat := lines.starts.length

/-- The line an offset lies in and its distance from the start of that line. -/
def position (lines : LineIndex) (offset : Nat) : Position :=
  let before := lines.starts.takeWhile (· ≤ offset)
  ⟨before.length, offset - before.getLastD 0 + 1⟩

/-- The offset of a position, when the text has that line. -/
def offset? (lines : LineIndex) (p : Position) : Option Nat :=
  (lines.starts[p.line - 1]?).map (· + (p.column - 1))

end LineIndex

end EventSheet
