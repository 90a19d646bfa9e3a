import EventSheet.Text.Lines

/-!
# Finding lines and columns

The lines of a text start behind its line feed bytes, and the starts are kept in increasing order.
So the line that a search among them finds is the one that counting line feeds finds, and the column
is the distance from the last of them: `LineIndex.position_exact`. The index is built and searched
in numbers of 32 bits, in which nothing overflows as long as the text and the offset fit.
-/

namespace EventSheet

open Text (byteLength)

/-! ### The bytes of a text -/

namespace Text

/-- The bytes of a text in UTF-8. -/
def bytes (source : String) : List UInt8 := source.toByteArray.data.toList

/-- The byte of a line feed. -/
def lineFeed : UInt8 := 10

theorem bytes_eq (source : String) : bytes source = source.toList.flatMap String.utf8EncodeChar := by
  rw [bytes, ← String.utf8Encode_toList, List.utf8Encode, List.toList_data_toByteArray]

theorem length_flatMap_utf8EncodeChar (cs : List Char) :
    (cs.flatMap String.utf8EncodeChar).length = byteLength cs := by
  induction cs with
  | nil => rfl
  | cons c cs ih =>
    rw [List.flatMap_cons, List.length_append, String.length_utf8EncodeChar, ih, byteLength_cons]

theorem length_bytes (source : String) : (bytes source).length = byteLength source.toList := by
  rw [bytes_eq, length_flatMap_utf8EncodeChar]

/-- No character but the line feed has the byte of a line feed in it. -/
theorem lineFeed_not_mem {c : Char} (hc : c ≠ '\n') : lineFeed ∉ String.utf8EncodeChar c := by
  have hval : c.val.toNat ≠ 10 := fun h => hc (Char.ext (UInt32.toNat_inj.1 h))
  have hbyte : ∀ n, n < 256 → n ≠ 10 → lineFeed ≠ UInt8.ofNat n := by
    intro n hlt hne heq
    have heq := congrArg UInt8.toNat heq
    rw [UInt8.toNat_ofNat'] at heq
    change 10 = n % 256 at heq
    omega
  intro hmem
  unfold String.utf8EncodeChar at hmem
  dsimp only at hmem
  split at hmem
  · exact hbyte _ (by omega) hval (List.mem_singleton.1 hmem)
  split at hmem
  · simp only [List.mem_cons, List.not_mem_nil, or_false] at hmem
    rcases hmem with h | h <;> exact hbyte _ (by omega) (by omega) h
  split at hmem
  · simp only [List.mem_cons, List.not_mem_nil, or_false] at hmem
    rcases hmem with h | h | h <;> exact hbyte _ (by omega) (by omega) h
  · simp only [List.mem_cons, List.not_mem_nil, or_false] at hmem
    rcases hmem with h | h | h | h <;> exact hbyte _ (by omega) (by omega) h

end Text

/-- The order in which the lines of a text and the columns of a line are read. -/
def Position.Before (p q : Position) : Prop :=
  p.line < q.line ∨ p.line = q.line ∧ p.column < q.column

namespace LineIndex

open Text (bytes lineFeed)

/-! ### Where lines start -/

/-- The positions just after the line feeds of some bytes, the first of which is at `i`. -/
def startsOf (i : Nat) : List UInt8 → List Nat
  | [] => []
  | b :: bs => if b = lineFeed then (i + 1) :: startsOf (i + 1) bs else startsOf (i + 1) bs

theorem startsOf_append_of_not_mem {bs : List UInt8} (h : lineFeed ∉ bs) (i : Nat)
    (more : List UInt8) : startsOf i (bs ++ more) = startsOf (i + bs.length) more := by
  induction bs generalizing i with
  | nil => rfl
  | cons b bs ih =>
    rw [List.mem_cons, not_or] at h
    obtain ⟨hb, hbs⟩ := h
    rw [List.cons_append, startsOf, if_neg (Ne.symm hb), ih hbs, List.length_cons, Nat.add_assoc,
      Nat.add_comm 1]

/-- Line feed characters are found by their bytes. -/
theorem startsFrom_eq (offset : Nat) (cs : List Char) :
    startsFrom offset cs = startsOf offset (cs.flatMap String.utf8EncodeChar) := by
  induction cs generalizing offset with
  | nil => rfl
  | cons c cs ih =>
    rw [startsFrom, List.flatMap_cons]
    by_cases hc : c = '\n'
    · subst hc
      have hfeed : String.utf8EncodeChar '\n' = [lineFeed] := by decide
      have hsize : '\n'.utf8Size = 1 := by decide
      rw [if_pos rfl, hfeed, List.singleton_append, startsOf, if_pos rfl, ih, hsize]
    · rw [if_neg hc, ih, startsOf_append_of_not_mem (Text.lineFeed_not_mem hc),
        String.length_utf8EncodeChar]

theorem starts_ofText (source : String) :
    (ofText source).starts = 0 :: startsOf 0 (bytes source) := by
  rw [Text.bytes_eq, ← startsFrom_eq]
  rfl

/-- A line starts behind a line feed. -/
theorem mem_startsOf {i s : Nat} {bs : List UInt8} :
    s ∈ startsOf i bs ↔ ∃ j, s = i + j + 1 ∧ bs[j]? = some lineFeed := by
  induction bs generalizing i with
  | nil => simp [startsOf]
  | cons b bs ih =>
    have hbehind : (∃ j, s = i + j + 1 ∧ (b :: bs)[j]? = some lineFeed) ↔
        (s = i + 1 ∧ b = lineFeed) ∨ ∃ j, s = i + 1 + j + 1 ∧ bs[j]? = some lineFeed := by
      constructor
      · rintro ⟨j, rfl, hj⟩
        cases j with
        | zero => exact .inl ⟨rfl, by simpa using hj⟩
        | succ j => exact .inr ⟨j, by omega, by simpa using hj⟩
      · rintro (⟨rfl, rfl⟩ | ⟨j, rfl, hj⟩)
        · exact ⟨0, rfl, rfl⟩
        · exact ⟨j + 1, by omega, by simpa using hj⟩
    rw [hbehind, startsOf]
    split
    next hb => simp [ih, hb]
    next hb => simp [ih, hb]

theorem startsOf_increasing (i : Nat) (bs : List UInt8) :
    (startsOf i bs).Pairwise (· < ·) := by
  induction bs generalizing i with
  | nil => exact .nil
  | cons b bs ih =>
    rw [startsOf]
    split
    · refine .cons (fun s hs => ?_) (ih (i + 1))
      obtain ⟨j, rfl, -⟩ := mem_startsOf.1 hs
      omega
    · exact ih (i + 1)

/-- As many lines start up to an offset as there are line feeds before it. -/
theorem length_takeWhile_startsOf (i offset : Nat) (bs : List UInt8) :
    ((startsOf i bs).takeWhile (· ≤ offset)).length = (bs.take (offset - i)).count lineFeed := by
  induction bs generalizing i with
  | nil => simp [startsOf]
  | cons b bs ih =>
    cases hn : offset - i with
    | zero =>
      have hnone : (startsOf i (b :: bs)).takeWhile (· ≤ offset) = [] := by
        cases hstarts : startsOf i (b :: bs) with
        | nil => rfl
        | cons s ss =>
          obtain ⟨j, hj, -⟩ := mem_startsOf.1 (hstarts ▸ List.mem_cons_self : s ∈ startsOf i (b :: bs))
          have hs : ¬ s ≤ offset := by omega
          exact List.takeWhile_cons_of_neg (by simpa using hs)
      rw [hnone]
      rfl
    | succ n =>
      have hrest : offset - (i + 1) = n := by omega
      have hle : i + 1 ≤ offset := by omega
      rw [List.take_succ_cons, ← hrest, startsOf]
      split
      next hb =>
        subst hb
        rw [List.takeWhile_cons_of_pos (by simpa using hle), List.length_cons, ih,
          List.count_cons_self]
      next hb => rw [ih, List.count_cons_of_ne hb]

/-! ### Searching among increasing numbers -/

/-- What a search among increasing numbers is asked for: how many are at most a bound, where those
that are stand before those that are not. -/
structure IsPartitionPoint (starts : List Nat) (offset index : Nat) : Prop where
  le_length : index ≤ starts.length
  splits : ∀ i s, starts[i]? = some s → (s ≤ offset ↔ i < index)

section

variable {starts : List Nat} {offset index : Nat}

theorem isPartitionPoint_takeWhile (h : starts.Pairwise (· < ·)) (offset : Nat) :
    IsPartitionPoint starts offset (starts.takeWhile (· ≤ offset)).length := by
  induction starts with
  | nil => exact ⟨Nat.le_refl _, nofun⟩
  | cons s ss ih =>
    obtain ⟨hs, hss⟩ := List.pairwise_cons.1 h
    by_cases hle : s ≤ offset
    · obtain ⟨hlength, hsplits⟩ := ih hss
      rw [List.takeWhile_cons_of_pos (by simpa using hle)]
      refine ⟨Nat.succ_le_succ hlength, fun i t ht => ?_⟩
      cases i with
      | zero =>
        obtain rfl : s = t := by simpa using ht
        simpa using hle
      | succ i => simpa using hsplits i t (by simpa using ht)
    · rw [List.takeWhile_cons_of_neg (by simpa using hle)]
      refine ⟨Nat.zero_le _, fun i t ht => ⟨fun hle' => ?_, fun hlt => absurd hlt (Nat.not_lt_zero i)⟩⟩
      have hst : s ≤ t := by
        rcases List.mem_cons.1 (List.mem_of_getElem? ht) with rfl | hmem
        · exact Nat.le_refl _
        · exact Nat.le_of_lt (hs t hmem)
      exact absurd (Nat.le_trans hst hle') hle

theorem IsPartitionPoint.le {index' : Nat} (h : IsPartitionPoint starts offset index)
    (h' : IsPartitionPoint starts offset index') : index ≤ index' := by
  refine Nat.le_of_not_lt fun hlt => ?_
  have hs := List.getElem?_eq_getElem (Nat.lt_of_lt_of_le hlt h.le_length)
  exact Nat.lt_irrefl _ ((h'.splits _ _ hs).1 ((h.splits _ _ hs).2 hlt))

/-- A search among increasing numbers has one result. -/
theorem IsPartitionPoint.eq_length (h : starts.Pairwise (· < ·))
    (hindex : IsPartitionPoint starts offset index) :
    index = (starts.takeWhile (· ≤ offset)).length :=
  Nat.le_antisymm (hindex.le (isPartitionPoint_takeWhile h offset))
    ((isPartitionPoint_takeWhile h offset).le hindex)

theorem le_of_getElem? (h : starts.Pairwise (· < ·)) {i j s t : Nat} (hij : i ≤ j)
    (hs : starts[i]? = some s) (ht : starts[j]? = some t) : s ≤ t := by
  obtain ⟨hi, rfl⟩ := List.getElem?_eq_some_iff.1 hs
  obtain ⟨hj, rfl⟩ := List.getElem?_eq_some_iff.1 ht
  rcases Nat.lt_or_eq_of_le hij with hlt | rfl
  · exact Nat.le_of_lt (List.pairwise_iff_getElem.1 h i j hi hj hlt)
  · exact Nat.le_refl _

/-- The last of some first elements is found by how many they are. -/
theorem getElem?_of_prefix {xs ys : List Nat} (h : xs <+: ys) (hne : xs ≠ []) (d : Nat) :
    ys[xs.length - 1]? = some (xs.getLastD d) := by
  obtain ⟨zs, rfl⟩ := h
  have hlast : xs.length - 1 < xs.length := Nat.sub_lt (List.length_pos_iff.2 hne) Nat.one_pos
  rw [List.getElem?_append_left hlast, List.getLastD_eq_getLast?, List.getLast?_eq_getElem?,
    List.getElem?_eq_getElem hlast, Option.getD_some]

end

/-! ### Lines and columns -/

/-- Where the line of an offset starts: behind the last line feed before the offset, or at the
beginning of the text when there is none. -/
structure IsLineStart (source : String) (offset start : Nat) : Prop where
  le : start ≤ offset
  behind : start ≠ 0 → (bytes source)[start - 1]? = some lineFeed
  last : ∀ i, start ≤ i → i < offset → (bytes source)[i]? ≠ some lineFeed

section

variable {source : String} {offset : Nat}

theorem starts_increasing (source : String) : (ofText source).starts.Pairwise (· < ·) := by
  rw [starts_ofText]
  refine .cons (fun s hs => ?_) (startsOf_increasing 0 _)
  obtain ⟨j, rfl, -⟩ := mem_startsOf.1 hs
  omega

theorem mem_starts {s : Nat} :
    s ∈ (ofText source).starts ↔ (s ≠ 0 → (bytes source)[s - 1]? = some lineFeed) := by
  rw [starts_ofText, List.mem_cons, mem_startsOf]
  cases s with
  | zero => simp
  | succ s => simp

/-- The starts of the lines up to that of an offset. -/
theorem takeWhile_starts (source : String) (offset : Nat) :
    (ofText source).starts.takeWhile (· ≤ offset) =
      0 :: (startsOf 0 (bytes source)).takeWhile (· ≤ offset) := by
  rw [starts_ofText]
  exact List.takeWhile_cons_of_pos (by simp)

/-- The start that the column of an offset counts from. -/
def lineStart (source : String) (offset : Nat) : Nat :=
  ((ofText source).starts.takeWhile (· ≤ offset)).getLastD 0

theorem position_line :
    ((ofText source).position offset).line = 1 + ((bytes source).take offset).count lineFeed := by
  rw [position]
  dsimp only
  rw [takeWhile_starts, List.length_cons, length_takeWhile_startsOf, Nat.add_comm]
  rfl

theorem position_line_le : ((ofText source).position offset).line ≤ offset + 1 := by
  have hcount := List.count_le_length (a := lineFeed) (l := (bytes source).take offset)
  have htake := List.length_take_le offset (bytes source)
  rw [position_line]
  omega

theorem position_column :
    ((ofText source).position offset).column = offset - lineStart source offset + 1 := rfl

theorem position_column_le : ((ofText source).position offset).column ≤ offset + 1 :=
  Nat.succ_le_succ (Nat.sub_le _ _)

/-- The line that is found starts where the column counts from. -/
theorem getElem?_lineStart (source : String) (offset : Nat) :
    (ofText source).starts[((ofText source).position offset).line - 1]? =
      some (lineStart source offset) := by
  refine getElem?_of_prefix (List.takeWhile_prefix _) ?_ 0
  rw [takeWhile_starts]
  exact List.cons_ne_nil _ _

theorem position_line_pos (source : String) (offset : Nat) :
    1 ≤ ((ofText source).position offset).line := by
  rw [position_line]
  exact Nat.le_add_right _ _

theorem isPartitionPoint_line (source : String) (offset : Nat) :
    IsPartitionPoint (ofText source).starts offset ((ofText source).position offset).line :=
  isPartitionPoint_takeWhile (starts_increasing source) offset

theorem isLineStart_lineStart (source : String) (offset : Nat) :
    IsLineStart source offset (lineStart source offset) := by
  have hstart := getElem?_lineStart source offset
  have hpoint := isPartitionPoint_line source offset
  have hpos := position_line_pos source offset
  refine ⟨?_, mem_starts.1 (List.mem_of_getElem? hstart), ?_⟩
  · exact (hpoint.splits _ _ hstart).2 (by omega)
  · -- the line behind such a line feed would start later, but not behind the offset
    intro i hi hlt hfeed
    have hmem : i + 1 ∈ (ofText source).starts := mem_starts.2 fun _ => hfeed
    obtain ⟨n, hn⟩ := List.mem_iff_getElem?.1 hmem
    have hline := (hpoint.splits n _ hn).1 hlt
    have hle := le_of_getElem? (starts_increasing source) (by omega) hn hstart
    omega

/-- An offset is told from its line and its column again. -/
theorem offset?_position (source : String) (offset : Nat) :
    (ofText source).offset? ((ofText source).position offset) = some offset := by
  have hle := (isLineStart_lineStart source offset).le
  rw [offset?, getElem?_lineStart, position_column, Option.map_some]
  congr 1
  omega

theorem position_before (source : String) {m n : Nat} (h : m < n) :
    ((ofText source).position m).Before ((ofText source).position n) := by
  have hm := isPartitionPoint_line source m
  have hn := isPartitionPoint_line source n
  have hline : ((ofText source).position m).line ≤ ((ofText source).position n).line := by
    refine Nat.le_of_not_lt fun hlt => ?_
    have hs := List.getElem?_eq_getElem (Nat.lt_of_lt_of_le hlt hm.le_length)
    have hle := (hm.splits _ _ hs).2 hlt
    exact Nat.lt_irrefl _ ((hn.splits _ _ hs).1 (by omega))
  rcases Nat.lt_or_eq_of_le hline with hlt | heq
  · exact .inl hlt
  · refine .inr ⟨heq, ?_⟩
    have hstart := getElem?_lineStart source m
    rw [heq, getElem?_lineStart] at hstart
    have hle := (isLineStart_lineStart source m).le
    rw [position_column, position_column, Option.some.inj hstart]
    omega

theorem position_before_iff {m n : Nat} :
    ((ofText source).position m).Before ((ofText source).position n) ↔ m < n := by
  refine ⟨fun h => ?_, position_before source⟩
  rcases Nat.lt_trichotomy m n with hlt | rfl | hgt
  · exact hlt
  · simp [Position.Before] at h
  · have h' := position_before source hgt
    simp only [Position.Before] at h h'
    omega

end

/-! ### In numbers of 32 bits -/

/-- The number, when it fits into 32 bits. -/
def fits32? (n : Nat) : Option Nat := if n < UInt32.size then some n else none

/-- The difference of two numbers, when it is one. -/
def sub? (m n : Nat) : Option Nat := if n ≤ m then some (m - n) else none

/-- The positions just after the line feeds of some bytes, when they fit into 32 bits. -/
def starts32? (i : Nat) : List UInt8 → Option (List Nat)
  | [] => some []
  | b :: bs =>
    if b = lineFeed then do
      let start ← fits32? (i + 1)
      let starts ← starts32? (i + 1) bs
      return start :: starts
    else starts32? (i + 1) bs

/-- The line and the column of an offset, from what a search among the starts has found. Neither
exists when a number does not fit into 32 bits or the search has left the list. -/
def position32? (starts : List Nat) (offset index : Nat) : Option Position := do
  let i ← fits32? (index - 1)
  let line ← fits32? (i + 1)
  let start ← starts[index - 1]?
  let distance ← sub? offset start
  let column ← fits32? (distance + 1)
  return ⟨line, column⟩

theorem fits32?_eq_some {n : Nat} (h : n < UInt32.size) : fits32? n = some n := if_pos h

theorem starts32?_eq {i : Nat} {bs : List UInt8} (h : i + bs.length < UInt32.size) :
    starts32? i bs = some (startsOf i bs) := by
  induction bs generalizing i with
  | nil => rfl
  | cons b bs ih =>
    rw [List.length_cons] at h
    rw [starts32?, startsOf, ih (by omega), fits32?_eq_some (by omega)]
    split <;> rfl

/-- Whatever way the search goes, the numbers it leads to fit. -/
theorem position32?_eq {source : String} {offset index : Nat} (hoffset : offset < UInt32.size - 1)
    (hindex : IsPartitionPoint (ofText source).starts offset index) :
    position32? (ofText source).starts offset index = some ((ofText source).position offset) := by
  obtain rfl : index = ((ofText source).position offset).line :=
    hindex.eq_length (starts_increasing source)
  have hle := (isLineStart_lineStart source offset).le
  have hpos := position_line_pos source offset
  have hline : ((ofText source).position offset).line ≤ offset + 1 := position_line_le
  have hnext : ((ofText source).position offset).line - 1 + 1 =
      ((ofText source).position offset).line := Nat.sub_add_cancel hpos
  have hindex32 : fits32? (((ofText source).position offset).line - 1) = some _ :=
    fits32?_eq_some (by omega)
  have hline32 : fits32? ((ofText source).position offset).line = some _ :=
    fits32?_eq_some (by omega)
  have hdistance : sub? offset (lineStart source offset) = some _ := if_pos hle
  have hcolumn32 : fits32? (offset - lineStart source offset + 1) = some _ :=
    fits32?_eq_some (by omega)
  simp only [position32?, Option.bind_eq_bind, hindex32, Option.bind_some, hnext, hline32,
    getElem?_lineStart, hdistance, hcolumn32]
  rfl

/-- Finding lines and columns is exact. The line is one more than the line feeds before the offset,
and the column counts from behind the last of them, whether the offset is in the text or past its
end. The index of the text and the position are the same in numbers of 32 bits, whichever way the
starts are searched, so that nothing overflows. The offset is found again from the position, and
positions are ordered as offsets are. -/
theorem position_exact (source : String) (hsource : byteLength source.toList < UInt32.size) :
    (starts32? 0 (bytes source)).map (0 :: ·) = some (ofText source).starts ∧
    (∀ offset, offset < UInt32.size - 1 →
      ((ofText source).position offset).line =
        1 + ((bytes source).take offset).count lineFeed ∧
      (∃ start, IsLineStart source offset start ∧
        ((ofText source).position offset).column = offset - start + 1) ∧
      1 ≤ ((ofText source).position offset).line ∧
      ((ofText source).position offset).line ≤ (ofText source).count ∧
      (∃ index, IsPartitionPoint (ofText source).starts offset index) ∧
      (∀ index, IsPartitionPoint (ofText source).starts offset index →
        position32? (ofText source).starts offset index =
          some ((ofText source).position offset)) ∧
      (ofText source).offset? ((ofText source).position offset) = some offset) ∧
    ∀ m n, m < UInt32.size - 1 → n < UInt32.size - 1 →
      (m ≠ n → (ofText source).position m ≠ (ofText source).position n) ∧
      (m < n ↔ ((ofText source).position m).Before ((ofText source).position n)) := by
  refine ⟨?_, fun offset hoffset => ⟨position_line, ⟨_, isLineStart_lineStart source offset, rfl⟩,
    position_line_pos source offset, (isPartitionPoint_line source offset).le_length,
    ⟨_, isPartitionPoint_line source offset⟩,
    fun index => position32?_eq hoffset, offset?_position source offset⟩, fun m n _ _ => ⟨?_, ?_⟩⟩
  · rw [starts32?_eq (by rwa [Nat.zero_add, Text.length_bytes]), starts_ofText]
    rfl
  · intro hne heq
    have hm := offset?_position source m
    rw [heq, offset?_position] at hm
    exact hne (Option.some.inj hm).symm
  · exact position_before_iff.symm

theorem position_exact_two_lines :
    byteLength "1 +\n2".toList < UInt32.size ∧
    IsPartitionPoint [0, 4] 9 2 ∧ position32? [0, 4] 9 2 = some ⟨2, 6⟩ ∧
    ((ofText "1 +\n2").position 3).Before ((ofText "1 +\n2").position 4) := by
  have hsource : byteLength "1 +\n2".toList < UInt32.size := by decide
  have hstarts : (ofText "1 +\n2").starts = [0, 4] := by decide
  have hindex : IsPartitionPoint [0, 4] 9 2 := by
    refine ⟨by decide, fun i s hs => ?_⟩
    match i, hs with
    | 0, hs => simp at hs; omega
    | 1, hs => simp at hs; omega
    | i + 2, hs => simp at hs
  obtain ⟨-, hposition, horder⟩ := position_exact "1 +\n2" hsource
  obtain ⟨-, -, -, -, -, hsearch, -⟩ := hposition 9 (by decide)
  rw [hstarts] at hsearch
  exact ⟨hsource, hindex, hsearch 2 hindex, (horder 3 4 (by decide) (by decide)).2.1 (by decide)⟩

end LineIndex

end EventSheet
