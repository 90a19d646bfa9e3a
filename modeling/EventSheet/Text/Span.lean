/-!
# Spans of a text

Positions in an expression are byte offsets into the UTF-8 form of its text, which is what an editor
needs to underline a problem. A `Span` is a range of them. `Span.slice` reads the text a span covers
and answers with the empty text when the span does not fit: when it leaves the text or cuts a
character.
-/

namespace EventSheet

/-- A range of byte offsets: `start` belongs to it and `stop` does not. -/
structure Span where
  start : Nat
  stop : Nat
  deriving DecidableEq

namespace Text

/-- The number of bytes of a text in UTF-8. -/
def byteLength : List Char → Nat
  | [] => 0
  | c :: cs => c.utf8Size + byteLength cs

/-- What follows the first `n` bytes, unless the text is shorter or a character is cut. -/
def dropBytes : Nat → List Char → Option (List Char)
  | 0, cs => some cs
  | _ + 1, [] => none
  | n + 1, c :: cs => if c.utf8Size ≤ n + 1 then dropBytes (n + 1 - c.utf8Size) cs else none

/-- The characters of the first `n` bytes, unless the text is shorter or a character is cut. -/
def takeBytes : Nat → List Char → Option (List Char)
  | 0, _ => some []
  | _ + 1, [] => none
  | n + 1, c :: cs =>
    if c.utf8Size ≤ n + 1 then (takeBytes (n + 1 - c.utf8Size) cs).map (c :: ·) else none

@[simp] theorem byteLength_nil : byteLength [] = 0 := rfl

@[simp] theorem byteLength_cons (c : Char) (cs : List Char) :
    byteLength (c :: cs) = c.utf8Size + byteLength cs := rfl

@[simp] theorem byteLength_append (xs ys : List Char) :
    byteLength (xs ++ ys) = byteLength xs + byteLength ys := by
  induction xs with
  | nil => simp
  | cons c xs ih => simp [ih, Nat.add_assoc]

theorem dropBytes_append (xs ys : List Char) :
    dropBytes (byteLength xs) (xs ++ ys) = some ys := by
  induction xs with
  | nil => cases ys <;> rfl
  | cons c xs ih =>
    have hc : 0 < c.utf8Size := c.utf8Size_pos
    obtain ⟨n, hn⟩ : ∃ n, byteLength (c :: xs) = n + 1 :=
      ⟨byteLength (c :: xs) - 1, by simp only [byteLength_cons]; omega⟩
    rw [hn, List.cons_append, dropBytes]
    have hle : c.utf8Size ≤ n + 1 := by simp only [byteLength_cons] at hn; omega
    have hsub : n + 1 - c.utf8Size = byteLength xs := by simp only [byteLength_cons] at hn; omega
    rw [if_pos hle, hsub, ih]

theorem takeBytes_append (xs ys : List Char) :
    takeBytes (byteLength xs) (xs ++ ys) = some xs := by
  induction xs with
  | nil => cases ys <;> rfl
  | cons c xs ih =>
    have hc : 0 < c.utf8Size := c.utf8Size_pos
    obtain ⟨n, hn⟩ : ∃ n, byteLength (c :: xs) = n + 1 :=
      ⟨byteLength (c :: xs) - 1, by simp only [byteLength_cons]; omega⟩
    rw [hn, List.cons_append, takeBytes]
    have hle : c.utf8Size ≤ n + 1 := by simp only [byteLength_cons] at hn; omega
    have hsub : n + 1 - c.utf8Size = byteLength xs := by simp only [byteLength_cons] at hn; omega
    rw [if_pos hle, hsub, ih, Option.map_some]

end Text

namespace Span

/-- The empty span at an offset. -/
def point (offset : Nat) : Span := ⟨offset, offset⟩

/-- The number of bytes covered. -/
def length (s : Span) : Nat := s.stop - s.start

/-- A span that covers nothing. -/
def isEmpty (s : Span) : Bool := s.start == s.stop

/-- The smallest span that covers both. -/
def merge (s t : Span) : Span := ⟨min s.start t.start, max s.stop t.stop⟩

/-- The covered characters, when the span lies on character boundaries of the text. -/
def cut? (s : Span) (text : List Char) : Option (List Char) :=
  if s.start ≤ s.stop then (Text.dropBytes s.start text).bind (Text.takeBytes s.length) else none

/-- The covered text, or the empty text when the span does not fit. -/
def slice (s : Span) (text : String) : String :=
  String.ofList ((s.cut? text.toList).getD [])

theorem cut?_append (xs ys zs : List Char) :
    cut? ⟨Text.byteLength xs, Text.byteLength xs + Text.byteLength ys⟩ (xs ++ (ys ++ zs)) =
      some ys := by
  simp [cut?, length, Text.dropBytes_append, Text.takeBytes_append]

end Span

end EventSheet
