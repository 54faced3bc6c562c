import MarkupLowering.Text.Position
import MarkupLowering.Proofs.Text.Bytes

/-
  This file shows that the position of a byte offset is the
  one that is reached by walking through the characters in
  front of the offset, unless a number overflows.

  The table of line starts has two parts for an offset: the
  starts up to the offset come first, and there is one for
  each line feed before it, and one for the first line.  So
  the search, which only compares entries with the offset,
  ends at the last entry of the first part.

  Only a text of the greatest length can have a position that
  does not fit in 32 bits: the one at its end, if the text is
  all line feeds or one line of characters of one byte.

  Key definitions include:
    * `Spot`
    * `Spot.walk`
    * `Spot.Before`
    * `Text.WholeLines`
    * `LineTable.Overflows`

  Key theorems include:
    * `Text.narrow_succ_eq`
    * `Text.count_bytes`
    * `Text.start_le_iff`
    * `LineTable.ofSource_line?`
    * `LineTable.ofSource_lineStart`
    * `LineTable.place_boundary`
    * `LineTable.position?_eq_none_iff`
    * `LineTable.position_follows_walk`
-/

namespace MarkupLowering

------------------------------------------------------------
-- Walking through Characters
------------------------------------------------------------

/- A line and a column of any size. -/
structure Spot where
  line : Nat
  column : Nat
deriving DecidableEq, Repr

/- Where a position is. -/
def Position.spot (position : Position) : Spot :=
  ⟨position.line.toNat, position.column.toNat⟩

namespace Spot

/- The spot behind a character. -/
def next
    (spot : Spot)
    (c : Char) : Spot :=
  if c = '\n' then
    ⟨spot.line + 1, 1⟩
  else
    ⟨spot.line, spot.column + 1⟩

/- The spot behind some characters. -/
def walk
    (spot : Spot)
    (cs : List Char) : Spot :=
  cs.foldl next spot

/- A spot on an earlier line, or further left on the same. -/
def Before (first second : Spot) : Prop :=
  first.line < second.line ∨
    (first.line = second.line ∧ first.column < second.column)

instance
    (first second : Spot) :
    Decidable (Before first second) := by
  unfold Before
  infer_instance

theorem walk_append
    (spot : Spot)
    (first second : List Char) :
    spot.walk (first ++ second) =
      (spot.walk first).walk second :=
  List.foldl_append

/- Each line feed leads to a new line. -/
theorem walk_line
    (spot : Spot)
    (cs : List Char) :
    (spot.walk cs).line =
      spot.line + cs.count '\n' := by
  induction cs generalizing spot with
  | nil => rfl
  | cons c cs ih =>
      rw [walk, List.foldl_cons, ← walk, ih]
      by_cases hFeed : c = '\n'
      · simp [next, hFeed]
        omega
      · simp [next, hFeed]

/- On a line, each character leads one column further. -/
theorem walk_column
    {cs : List Char}
    (hLine : '\n' ∉ cs)
    (spot : Spot) :
    (spot.walk cs).column =
      spot.column + cs.length := by
  induction cs generalizing spot with
  | nil => rfl
  | cons c cs ih =>
      rw [List.mem_cons, not_or] at hLine
      have hFeed : c ≠ '\n' := Ne.symm hLine.1
      rw [walk, List.foldl_cons, ← walk, ih hLine.2]
      simp [next, hFeed]
      omega

theorem Before.trans
    {first second third : Spot}
    (hFirst : first.Before second)
    (hSecond : second.Before third) :
    first.Before third := by
  unfold Before at *
  omega

theorem before_next
    (spot : Spot)
    (c : Char) :
    spot.Before (spot.next c) := by
  by_cases hFeed : c = '\n'
  · simp [Before, next, hFeed]
  · simp [Before, next, hFeed]

/- A walk through characters leads on. -/
theorem before_walk
    {cs : List Char}
    (hSome : cs ≠ [])
    (spot : Spot) :
    spot.Before (spot.walk cs) := by
  induction cs generalizing spot with
  | nil => exact absurd rfl hSome
  | cons c cs ih =>
      have hStep := spot.before_next c
      by_cases hLast : cs = []
      · rw [hLast]
        exact hStep
      · exact hStep.trans (ih hLast (spot.next c))

end Spot

namespace Text

------------------------------------------------------------
-- Searching
------------------------------------------------------------

/-
  A search in a table whose first entries are those up to the
  key ends at the last one of them.  The stretch that is left
  always reaches from one of the first entries to their end.
-/
theorem narrow_succ_eq
    {table : Array UInt32}
    {key : UInt32}
    {count size : Nat}
    {base index : Fin table.size}
    {hFits : base + size ≤ table.size}
    (hFirst :
      ∀ i entry,
        table[i]? = some entry → (entry ≤ key ↔ i < count))
    (hBase : base.val < count)
    (hCount : count ≤ base + size) :
    narrow table key base size hFits = index →
      index.val + 1 = count := by
  fun_induction narrow table key base size hFits with
  | case1 base size hFits hMany middle hAbove ih =>
      apply ih hBase
      have hEntry :=
        hFirst middle _ (Array.getElem?_eq_getElem middle.isLt)
      have hMiddle := mt hEntry.mpr (UInt32.not_le.mpr hAbove)
      simp only [middle] at hMiddle
      omega
  | case2 base size hFits hMany middle hAbove ih =>
      have hEntry :=
        hFirst middle _ (Array.getElem?_eq_getElem middle.isLt)
      apply ih
      · exact hEntry.mp (UInt32.not_lt.mp hAbove)
      · simp only [middle]
        omega
  | case3 base size hFits hMany =>
      intro hIndex
      rw [← hIndex]
      omega

------------------------------------------------------------
-- Line Feeds
------------------------------------------------------------

theorem bytes_append
    (first second : List Char) :
    bytes (first ++ second) = bytes first ++ bytes second :=
  List.flatMap_append

theorem length_bytes
    (cs : List Char) :
    (bytes cs).length = byteLength cs := by
  induction cs with
  | nil => rfl
  | cons c cs ih =>
      rw [bytes, List.flatMap_cons, ← bytes, List.length_append,
        String.length_utf8EncodeChar, ih]
      rfl

/- The byte of a line feed is part of no other character. -/
theorem lineFeed_not_mem_utf8EncodeChar
    {c : Char}
    (hFeed : c ≠ '\n') :
    0xA ∉ String.utf8EncodeChar c := by
  have hByte :
      ∀ n, (0xA : UInt8) = UInt8.ofNat n → n % 256 = 10 := by
    intro n hEq
    simpa using (congrArg UInt8.toNat hEq).symm
  have hCode : c.val.toNat ≠ 10 := by
    intro hEq
    exact hFeed (Char.ext (UInt32.toNat_inj.mp hEq))
  intro hMem
  unfold String.utf8EncodeChar at hMem
  simp only at hMem
  split at hMem
  · have hOne := hByte _ (List.mem_singleton.mp hMem)
    omega
  -- All bytes of a longer form lie above the ASCII range.
  split at hMem
  · simp only [List.mem_cons, List.not_mem_nil, or_false] at hMem
    rcases hMem with hEq | hEq
    all_goals
      have hValue := hByte _ hEq
      omega
  split at hMem
  · simp only [List.mem_cons, List.not_mem_nil, or_false] at hMem
    rcases hMem with hEq | hEq | hEq
    all_goals
      have hValue := hByte _ hEq
      omega
  · simp only [List.mem_cons, List.not_mem_nil, or_false] at hMem
    rcases hMem with hEq | hEq | hEq | hEq
    all_goals
      have hValue := hByte _ hEq
      omega

theorem count_bytes
    (cs : List Char) :
    (bytes cs).count 0xA = cs.count '\n' := by
  induction cs with
  | nil => rfl
  | cons c cs ih =>
      rw [bytes, List.flatMap_cons, ← bytes, List.count_append,
        ih]
      by_cases hFeed : c = '\n'
      · rw [hFeed, List.count_cons_self, Nat.add_comm]
        rfl
      · rw [List.count_cons_of_ne hFeed,
          List.count_eq_zero.mpr
            (lineFeed_not_mem_utf8EncodeChar hFeed),
          Nat.zero_add]

/- The starts of a text are those of its two parts. -/
theorem lineStartsFrom_append
    (offset : Nat)
    (first second : List UInt8) :
    lineStartsFrom offset (first ++ second) =
      lineStartsFrom offset first ++
        lineStartsFrom (offset + first.length) second := by
  induction first generalizing offset with
  | nil => rfl
  | cons byte first ih =>
      have hLength :
          offset + (byte :: first).length =
            offset + 1 + first.length := by
        rw [List.length_cons]
        omega
      rw [List.cons_append, lineStartsFrom, lineStartsFrom, ih,
        hLength]
      by_cases hFeed : byte = 0xA
      · rw [if_pos hFeed, if_pos hFeed, List.cons_append]
      · rw [if_neg hFeed, if_neg hFeed]

/- There is a start behind each line feed. -/
theorem length_lineStartsFrom
    (offset : Nat)
    (bs : List UInt8) :
    (lineStartsFrom offset bs).length = bs.count 0xA := by
  induction bs generalizing offset with
  | nil => rfl
  | cons byte bs ih =>
      rw [lineStartsFrom]
      by_cases hFeed : byte = 0xA
      · rw [if_pos hFeed, List.length_cons, ih, hFeed,
          List.count_cons_self]
      · rw [if_neg hFeed, ih, List.count_cons_of_ne hFeed]

theorem mem_lineStartsFrom
    {offset start : Nat}
    {bs : List UInt8}
    (hStart : start ∈ lineStartsFrom offset bs) :
    offset < start ∧ start ≤ offset + bs.length := by
  induction bs generalizing offset with
  | nil => cases hStart
  | cons byte bs ih =>
      rw [List.length_cons]
      rw [lineStartsFrom] at hStart
      by_cases hFeed : byte = 0xA
      · rw [if_pos hFeed] at hStart
        rcases List.mem_cons.mp hStart with hFirst | hLater
        · omega
        · have hBounds := ih hLater
          omega
      · rw [if_neg hFeed] at hStart
        have hBounds := ih hStart
        omega

/-
  The starts up to the end of the first part of a text come
  first.  There is one for each line feed of this part, and
  the zero in front of all.
-/
theorem start_le_iff
    {first second : List UInt8}
    {i start : Nat}
    (hStart :
      (0 :: lineStartsFrom 0 (first ++ second))[i]? =
        some start) :
    start ≤ first.length ↔ i < first.count 0xA + 1 := by
  rw [lineStartsFrom_append, Nat.zero_add, ← List.cons_append]
    at hStart
  have hLength :
      (0 :: lineStartsFrom 0 first).length =
        first.count 0xA + 1 := by
    rw [List.length_cons, length_lineStartsFrom]
  by_cases hInside : i < first.count 0xA + 1
  · rw [List.getElem?_append_left (by omega)] at hStart
    have hMem := List.mem_of_getElem? hStart
    have hLe : start ≤ first.length := by
      rcases List.mem_cons.mp hMem with hZero | hLater
      · omega
      · have hBounds := mem_lineStartsFrom hLater
        omega
    exact iff_of_true hLe hInside
  · rw [List.getElem?_append_right (by omega)] at hStart
    have hBounds :=
      mem_lineStartsFrom (List.mem_of_getElem? hStart)
    exact iff_of_false (by omega) hInside

------------------------------------------------------------
-- Lines
------------------------------------------------------------

/- The characters are whole lines, each with its line feed. -/
def WholeLines (cs : List Char) : Prop :=
  cs = [] ∨ ∃ front, cs = front ++ ['\n']

/- A text is some whole lines and a part of one line. -/
theorem exists_wholeLines
    (cs : List Char) :
    ∃ lines rest,
      cs = lines ++ rest ∧
        WholeLines lines ∧ '\n' ∉ rest := by
  induction cs with
  | nil => exact ⟨[], [], rfl, Or.inl rfl, List.not_mem_nil⟩
  | cons c cs ih =>
      rcases ih with ⟨lines, rest, hCut, hLines, hRest⟩
      rcases hLines with hNone | ⟨front, hFront⟩
      · rw [hNone, List.nil_append] at hCut
        by_cases hFeed : c = '\n'
        · refine ⟨[c], rest, ?_, Or.inr ⟨[], ?_⟩, hRest⟩
          · rw [hCut, List.singleton_append]
          · rw [hFeed, List.nil_append]
        · refine ⟨[], c :: rest, ?_, Or.inl rfl, ?_⟩
          · rw [hCut, List.nil_append]
          · rw [List.mem_cons, not_or]
            exact ⟨Ne.symm hFeed, hRest⟩
      · refine
          ⟨c :: lines, rest, ?_, Or.inr ⟨c :: front, ?_⟩, hRest⟩
        · rw [hCut, List.cons_append]
        · rw [hFront, List.cons_append]

/- A walk through whole lines and a part of one line. -/
theorem walk_wholeLines
    {lines rest : List Char}
    (hLines : WholeLines lines)
    (hRest : '\n' ∉ rest) :
    Spot.walk ⟨1, 1⟩ (lines ++ rest) =
      ⟨lines.count '\n' + 1, rest.length + 1⟩ := by
  have hFront : (Spot.walk ⟨1, 1⟩ lines).column = 1 := by
    rcases hLines with hNone | ⟨front, hFront⟩
    · rw [hNone]
      rfl
    · rw [hFront, Spot.walk_append]
      rfl
  have hLine :
      (Spot.walk ⟨1, 1⟩ (lines ++ rest)).line =
        lines.count '\n' + 1 := by
    rw [Spot.walk_line, List.count_append,
      List.count_eq_zero.mpr hRest, Nat.add_zero, Nat.add_comm]
  have hColumn :
      (Spot.walk ⟨1, 1⟩ (lines ++ rest)).column =
        rest.length + 1 := by
    rw [Spot.walk_append, Spot.walk_column hRest,
      hFront, Nat.add_comm]
  rw [← hLine, ← hColumn]

------------------------------------------------------------
-- Slices
------------------------------------------------------------

theorem slice?_append
    (before inside after : List Char) :
    slice? (before ++ inside ++ after) (byteLength before)
        (byteLength (before ++ inside)) =
      some inside := by
  have hInside :
      byteLength (before ++ inside) - byteLength before =
        byteLength inside := by
    rw [byteLength_append]
    omega
  unfold slice?
  rw [if_pos (by rw [byteLength_append]; omega), hInside,
    List.append_assoc, splitBytes_append]
  simp [splitBytes_append]

theorem length_le_byteLength
    (cs : List Char) :
    cs.length ≤ byteLength cs := by
  induction cs with
  | nil => exact Nat.le_refl 0
  | cons c cs ih =>
      have hPositive := c.utf8Size_pos
      simp only [byteLength, List.length_cons]
      omega

/- A slice has no more characters than bytes. -/
theorem length_slice?
    {source inside : List Char}
    {start stop : Nat}
    (hSlice : slice? source start stop = some inside) :
    inside.length ≤ stop := by
  unfold slice? at hSlice
  by_cases hOrder : start ≤ stop
  · rw [if_pos hOrder] at hSlice
    simp only [Option.bind_eq_bind, Option.bind_eq_some_iff,
      Option.pure_def, Option.some.injEq] at hSlice
    rcases hSlice with
      ⟨⟨_, rest⟩, _, ⟨passed, _⟩, hPassed, hEq⟩
    have hLength := (eq_append_of_splitBytes hPassed).2
    have hChars := length_le_byteLength passed
    rw [← hEq]
    simp only
    omega
  · rw [if_neg hOrder] at hSlice
    cases hSlice

theorem count_take_le
    (bytes : List UInt8)
    (size : Nat) :
    (bytes.take size).count 0xA ≤ size :=
  Nat.le_trans List.count_le_length (List.length_take_le size bytes)

/- Only characters of one byte are as many as their bytes. -/
theorem length_eq_byteLength_iff
    (cs : List Char) :
    cs.length = byteLength cs ↔ ∀ c ∈ cs, c.utf8Size = 1 := by
  induction cs with
  | nil => exact iff_of_true rfl (List.forall_mem_nil _)
  | cons c cs ih =>
      have hPositive := c.utf8Size_pos
      have hRest := length_le_byteLength cs
      rw [List.forall_mem_cons, ← ih, byteLength,
        List.length_cons]
      omega

/- Only line feeds are as many as the bytes of a text. -/
theorem count_eq_byteLength_iff
    (cs : List Char) :
    cs.count '\n' = byteLength cs ↔ ∀ c ∈ cs, c = '\n' := by
  constructor
  · intro hCount
    have hFew : cs.count '\n' ≤ cs.length :=
      List.count_le_length
    have hChars := length_le_byteLength cs
    have hAll : cs.count '\n' = cs.length := by omega
    intro c hMem
    exact (List.count_eq_length.mp hAll c hMem).symm
  · intro hAll
    have hCount : cs.count '\n' = cs.length :=
      List.count_eq_length.mpr fun c hMem => (hAll c hMem).symm
    rw [hCount, length_eq_byteLength_iff]
    intro c hMem
    rw [hAll c hMem]
    rfl

/- Walks that come to a new line with every byte. -/
theorem walk_line_full
    (cs : List Char) :
    (Spot.walk ⟨1, 1⟩ cs).line = byteLength cs + 1 ↔
      ∀ c ∈ cs, c = '\n' := by
  rw [Spot.walk_line, ← count_eq_byteLength_iff]
  show 1 + cs.count '\n' = byteLength cs + 1 ↔ _
  omega

/- Walks that come to a new column with every byte. -/
theorem walk_column_full
    (cs : List Char) :
    (Spot.walk ⟨1, 1⟩ cs).column = byteLength cs + 1 ↔
      ∀ c ∈ cs, c ≠ '\n' ∧ c.utf8Size = 1 := by
  constructor
  · intro hFull
    rcases exists_wholeLines cs with
      ⟨lines, rest, hCut, hLines, hRest⟩
    rw [hCut, walk_wholeLines hLines hRest,
      byteLength_append] at hFull
    simp only [Nat.add_right_cancel_iff] at hFull
    -- No byte is left for the whole lines.
    have hFew := length_le_byteLength rest
    have hLinesLe := length_le_byteLength lines
    have hNone : lines = [] := by
      apply List.length_eq_zero_iff.mp
      omega
    have hWidths :=
      (length_eq_byteLength_iff rest).mp (by omega)
    rw [hCut, hNone, List.nil_append]
    intro c hMem
    refine ⟨?_, hWidths c hMem⟩
    intro hFeed
    rw [hFeed] at hMem
    exact hRest hMem
  · intro hAll
    have hLine : '\n' ∉ cs := by
      intro hMem
      exact (hAll '\n' hMem).1 rfl
    have hWidths :=
      (length_eq_byteLength_iff cs).mpr
        fun c hMem => (hAll c hMem).2
    rw [Spot.walk_column hLine, ← hWidths]
    exact Nat.add_comm 1 cs.length

/- A walk through line feeds alone. -/
theorem walk_feeds
    {cs : List Char}
    {count : Nat}
    (hFeeds : cs = List.replicate (count + 1) '\n') :
    byteLength cs = count + 1 ∧
      Spot.walk ⟨1, 1⟩ cs = ⟨count + 1 + 1, 1⟩ := by
  have hMany : cs.count '\n' = count + 1 := by
    rw [hFeeds, List.count_replicate_self]
  constructor
  · rw [← hMany, eq_comm, count_eq_byteLength_iff]
    intro c hMem
    rw [hFeeds] at hMem
    exact List.eq_of_mem_replicate hMem
  · have hLines : WholeLines cs := by
      rw [hFeeds, List.replicate_succ']
      exact .inr ⟨_, rfl⟩
    have hEnd := walk_wholeLines hLines List.not_mem_nil
    rw [List.append_nil, hMany] at hEnd
    exact hEnd

------------------------------------------------------------
-- Counting from One
------------------------------------------------------------

theorem toNat_add_one
    {n : UInt32}
    (hFits : n.toNat ≠ UInt32.size - 1) :
    (n + 1).toNat = n.toNat + 1 := by
  have hBound := n.toNat_lt_size
  have hNext : n.toNat + 1 < UInt32.size := by omega
  rw [UInt32.toNat_add]
  exact Nat.mod_eq_of_lt hNext

/- Only the greatest number of 32 bits wraps around. -/
theorem add_one_eq_zero_iff
    (n : UInt32) :
    n + 1 = 0 ↔ n.toNat = UInt32.size - 1 := by
  constructor
  · intro hEq
    apply Decidable.byContradiction
    intro hFits
    have hNext := toNat_add_one hFits
    rw [hEq] at hNext
    exact absurd hNext (Nat.succ_ne_zero _).symm
  · intro hEq
    apply UInt32.toNat_inj.mp
    rw [UInt32.toNat_add, hEq]
    rfl

theorem increment?_eq_none_iff
    (n : UInt32) :
    increment? n = none ↔ n.toNat = UInt32.size - 1 := by
  rw [← add_one_eq_zero_iff, increment?]
  by_cases hLast : n + 1 = 0
  · rw [if_pos hLast]
    exact iff_of_true rfl hLast
  · rw [if_neg hLast]
    exact iff_of_false (Option.some_ne_none _) hLast

theorem eq_add_one_of_increment?
    {n next : UInt32}
    (hNext : increment? n = some next) :
    next = n + 1 ∧ next.toNat = n.toNat + 1 := by
  have hFits : n.toNat ≠ UInt32.size - 1 := by
    rw [ne_eq, ← increment?_eq_none_iff, hNext]
    exact Option.some_ne_none next
  unfold increment? at hNext
  split at hNext
  · cases hNext
  · cases hNext
    exact ⟨rfl, toNat_add_one hFits⟩

end Text

------------------------------------------------------------
-- Places
------------------------------------------------------------

namespace LineTable

/-
  The line of an offset is given by the number of starts up to
  the offset, if these come first.
-/
theorem line?_eq_of_first
    (table : LineTable)
    {offset : UInt32}
    {count : Nat}
    (hCount : count < table.starts.size)
    (hFirst :
      ∀ i start,
        table.starts[i]? = some start →
          (start ≤ offset ↔ i < count + 1)) :
    table.line? offset = some count := by
  cases hNarrow :
      Text.narrow table.starts offset
        ⟨0, table.size_starts_pos⟩ table.starts.size
        (by simp) with
  | mk index hInside =>
    have hIndex : index + 1 = count + 1 := by
      apply Text.narrow_succ_eq hFirst _ _ hNarrow
      · exact Nat.succ_pos count
      · simp only [Nat.zero_add]
        exact hCount
    rw [(table.line?_eq_narrow offset hNarrow).1]
    exact congrArg some (Nat.succ.inj hIndex)

section OfSource

variable {source : String}

/- The starts of lines, as numbers of any size. -/
theorem ofSource_starts
    (source : String)
    (i : Nat) :
    (ofSource source).starts[i]? =
      (0 :: Text.lineStartsFrom 0
        (Text.bytes source.toList))[i]?.map UInt32.ofNat := by
  simp only [ofSource, List.getElem?_toArray, List.getElem?_map]

/- The line of an offset is the number of line feeds before it. -/
theorem ofSource_line?
    (hShort : Text.byteLength source.toList < UInt32.size)
    {offset : UInt32}
    (hOffset :
      offset.toNat ≤ Text.byteLength source.toList) :
    (ofSource source).line? offset =
      some
        (((Text.bytes source.toList).take
          offset.toNat).count 0xA) := by
  have hLength :
      ((Text.bytes source.toList).take offset.toNat).length =
        offset.toNat := by
    rw [List.length_take, Text.length_bytes]
    omega
  have hCut :=
    List.take_append_drop offset.toNat
      (Text.bytes source.toList)
  apply line?_eq_of_first
  · have hLe :=
      List.Sublist.count_le 0xA
        (List.take_sublist offset.toNat
          (Text.bytes source.toList))
    simp only [ofSource, List.size_toArray, List.length_map,
      List.length_cons, Text.length_lineStartsFrom]
    omega
  · intro i start hStart
    rw [ofSource_starts] at hStart
    rcases Option.map_eq_some_iff.mp hStart with
      ⟨number, hNumber, rfl⟩
    have hBound : number < UInt32.size := by
      rcases List.mem_cons.mp (List.mem_of_getElem? hNumber) with
        hZero | hLater
      · omega
      · have hBounds := Text.mem_lineStartsFrom hLater
        rw [Text.length_bytes] at hBounds
        omega
    rw [← hCut] at hNumber
    have hIff := Text.start_le_iff hNumber
    rw [hLength] at hIff
    rw [UInt32.le_iff_toNat_le,
      UInt32.toNat_ofNat_of_lt' hBound]
    exact hIff

/- The start of the line behind whole lines. -/
theorem ofSource_lineStart
    {lines rest : List Char}
    (hSource : source.toList = lines ++ rest)
    (hLines : Text.WholeLines lines) :
    (ofSource source).starts[lines.count '\n']? =
      some (UInt32.ofNat (Text.byteLength lines)) := by
  rcases hLines with hNone | ⟨front, hFront⟩
  · rw [hNone]
    exact (ofSource source).begins
  · have hCount :
        lines.count '\n' =
          (Text.lineStartsFrom 0 (Text.bytes front)).length +
            1 := by
      rw [Text.length_lineStartsFrom, Text.count_bytes, hFront,
        List.count_append]
      rfl
    have hLength :
        Text.byteLength lines =
          0 + (Text.bytes front).length + 1 := by
      rw [Text.length_bytes, hFront, Text.byteLength_append,
        Nat.zero_add]
      rfl
    have hFeed : Text.bytes ['\n'] = [0xA] := by decide
    rw [ofSource_starts, hSource, hCount, hLength, hFront,
      Text.bytes_append, Text.bytes_append, hFeed,
      List.append_assoc, Text.lineStartsFrom_append,
      List.getElem?_cons_succ,
      List.getElem?_append_right (Nat.le_refl _), Nat.sub_self,
      List.singleton_append, Text.lineStartsFrom, if_pos rfl,
      List.getElem?_cons_zero, Option.map_some]

theorem column?_le
    {table : LineTable}
    {lineStart offset column : UInt32}
    (hColumn : table.column? lineStart offset = some column) :
    column.toNat ≤ offset.toNat := by
  unfold column? at hColumn
  split at hColumn
  · rename_i passed hPassed
    cases hColumn
    rw [UInt32.toNat_ofNat']
    exact
      Nat.le_trans (Nat.mod_le _ _) (Text.length_slice? hPassed)
  · unfold Text.subtract? at hColumn
    split at hColumn
    · rename_i hLe
      cases hColumn
      rw [UInt32.toNat_sub_of_le _ _ hLe]
      exact Nat.sub_le _ _
    · cases hColumn

theorem toNat_clamp
    (hShort : Text.byteLength source.toList < UInt32.size)
    (offset : UInt32) :
    ((ofSource source).clamp offset).toNat =
      min offset.toNat (Text.byteLength source.toList) := by
  have hEnd := UInt32.toNat_ofNat_of_lt' hShort
  have hSource : (ofSource source).source = source.toList := rfl
  unfold clamp
  rw [hSource]
  by_cases hLe :
      offset ≤ UInt32.ofNat (Text.byteLength source.toList)
  · have hMin := UInt32.le_iff_toNat_le.mp hLe
    rw [hEnd] at hMin
    rw [Nat.min_eq_left hMin]
    exact congrArg UInt32.toNat (if_pos hLe)
  · have hMin := UInt32.lt_iff_toNat_lt.mp (UInt32.not_le.mp hLe)
    rw [hEnd] at hMin
    rw [Nat.min_eq_right (Nat.le_of_lt hMin)]
    exact (congrArg UInt32.toNat (if_neg hLe)).trans hEnd

/- A lookup counts line feeds, and then characters or bytes. -/
theorem place_eq
    (table : LineTable)
    (offset : UInt32) :
    ∃ line lineStart,
      table.line? (table.clamp offset) = some line ∧
        table.starts[line]? = some lineStart ∧
        table.column? lineStart (table.clamp offset) =
          some (table.place offset).2 ∧
        (table.place offset).1 = UInt32.ofNat line := by
  have hPlace : table.place? offset = some (table.place offset) :=
    (Option.some_get _).symm
  simp only [place?, Option.bind_eq_bind,
    Option.bind_eq_some_iff, Option.pure_def,
    Option.some.injEq] at hPlace
  rcases hPlace with
    ⟨line, hLine, lineStart, hStart, column, hColumn, hEq⟩
  rw [← hEq]
  exact ⟨line, lineStart, hLine, hStart, hColumn, rfl⟩

/- The line of a place is the number of line feeds before it. -/
theorem place_line
    (hShort : Text.byteLength source.toList < UInt32.size)
    (offset : UInt32) :
    ((ofSource source).place offset).1.toNat =
      ((Text.bytes source.toList).take
        (min offset.toNat
          (Text.byteLength source.toList))).count 0xA := by
  rcases (ofSource source).place_eq offset with
    ⟨line, _, hLine, _, _, hEq⟩
  have hClamp := toNat_clamp hShort offset
  rw [ofSource_line? hShort (by omega), hClamp,
    Option.some.injEq] at hLine
  rw [hEq, ← hLine]
  apply UInt32.toNat_ofNat_of_lt'
  have hCount :=
    Text.count_take_le (Text.bytes source.toList)
      (min offset.toNat (Text.byteLength source.toList))
  omega

theorem place_column_le
    (hShort : Text.byteLength source.toList < UInt32.size)
    (offset : UInt32) :
    ((ofSource source).place offset).2.toNat ≤
      min offset.toNat (Text.byteLength source.toList) := by
  rcases (ofSource source).place_eq offset with
    ⟨_, _, _, _, hColumn, _⟩
  rw [← toNat_clamp hShort]
  exact column?_le hColumn

/- An offset in the line behind whole lines. -/
theorem line?_boundary
    (hShort : Text.byteLength source.toList < UInt32.size)
    {lines rest after : List Char}
    {offset : UInt32}
    (hSource : source.toList = lines ++ rest ++ after)
    (hRest : '\n' ∉ rest)
    (hOffset :
      offset.toNat = Text.byteLength (lines ++ rest)) :
    (ofSource source).line? offset =
      some (lines.count '\n') := by
  have hTake :
      (Text.bytes source.toList).take
          (Text.byteLength (lines ++ rest)) =
        Text.bytes (lines ++ rest) := by
    rw [hSource, Text.bytes_append, ← Text.length_bytes,
      List.take_left]
  have hLength := congrArg Text.byteLength hSource
  rw [Text.byteLength_append] at hLength
  rw [ofSource_line? hShort (by omega), hOffset, hTake,
    Text.count_bytes, List.count_append,
    List.count_eq_zero.mpr hRest, Nat.add_zero]

theorem column?_boundary
    {lines rest after : List Char}
    {lineStart offset : UInt32}
    (hSource : source.toList = lines ++ rest ++ after)
    (hStart : lineStart.toNat = Text.byteLength lines)
    (hOffset :
      offset.toNat = Text.byteLength (lines ++ rest)) :
    (ofSource source).column? lineStart offset =
      some (UInt32.ofNat rest.length) := by
  have hSlice := Text.slice?_append lines rest after
  rw [← hSource, ← hStart, ← hOffset] at hSlice
  simp only [column?, ofSource, hSlice]

/-
  Between two characters, the place is where a walk through
  the characters before it ends, counted from zero.
-/
theorem place_boundary
    (hShort : Text.byteLength source.toList < UInt32.size)
    {before after : List Char}
    {offset : UInt32}
    (hSource : source.toList = before ++ after)
    (hOffset :
      Text.byteLength before =
        min offset.toNat (Text.byteLength source.toList)) :
    Spot.walk ⟨1, 1⟩ before =
      ⟨((ofSource source).place offset).1.toNat + 1,
        ((ofSource source).place offset).2.toNat + 1⟩ := by
  rcases Text.exists_wholeLines before with
    ⟨lines, rest, hCut, hLines, hRest⟩
  have hClamp := toNat_clamp hShort offset
  have hLength := congrArg Text.byteLength hCut
  rw [Text.byteLength_append] at hLength
  have hFew := Text.length_le_byteLength rest
  rw [← hOffset, hCut] at hClamp
  rw [hCut] at hSource
  have hWhole : source.toList = lines ++ (rest ++ after) := by
    rw [hSource, List.append_assoc]
  have hLineStart :
      (UInt32.ofNat (Text.byteLength lines)).toNat =
        Text.byteLength lines := by
    apply UInt32.toNat_ofNat_of_lt'
    omega
  have hRestLength :
      (UInt32.ofNat rest.length).toNat = rest.length := by
    apply UInt32.toNat_ofNat_of_lt'
    omega
  have hFound := line?_boundary hShort hSource hRest hClamp
  rcases (ofSource source).place_eq offset with
    ⟨line, lineStart, hLine, hStart, hColumn, _⟩
  rw [hFound, Option.some.injEq] at hLine
  rw [← hLine, ofSource_lineStart hWhole hLines,
    Option.some.injEq] at hStart
  rw [← hStart, column?_boundary hSource hLineStart hClamp,
    Option.some.injEq] at hColumn
  have hCount :
      ((ofSource source).place offset).1.toNat =
        lines.count '\n' := by
    have hClampLe :
        ((ofSource source).clamp offset).toNat ≤
          Text.byteLength source.toList := by
      rw [toNat_clamp hShort]
      exact Nat.min_le_right _ _
    rw [ofSource_line? hShort hClampLe, toNat_clamp hShort,
      Option.some.injEq] at hFound
    rw [place_line hShort, hFound]
  rw [hCount, ← hColumn, hRestLength, hCut]
  exact Text.walk_wholeLines hLines hRest

/- At the end of a text, the whole of it has been walked. -/
theorem place_end
    (hShort : Text.byteLength source.toList < UInt32.size)
    {offset : UInt32}
    (hEnd : Text.byteLength source.toList ≤ offset.toNat) :
    Spot.walk ⟨1, 1⟩ source.toList =
      ⟨((ofSource source).place offset).1.toNat + 1,
        ((ofSource source).place offset).2.toNat + 1⟩ := by
  apply place_boundary hShort (List.append_nil _).symm
  exact (Nat.min_eq_right hEnd).symm

end OfSource

------------------------------------------------------------
-- Positions
------------------------------------------------------------

/-
  The offset is the end of a text of the greatest length, and
  every byte of the text leads to a new line, or every byte to
  a new column.
-/
def Overflows
    (source : String)
    (offset : UInt32) : Prop :=
  Text.byteLength source.toList = UInt32.size - 1 ∧
    offset.toNat = UInt32.size - 1 ∧
    ((∀ c ∈ source.toList, c = '\n') ∨
      ∀ c ∈ source.toList, c ≠ '\n' ∧ c.utf8Size = 1)

theorem position?_eq_none
    (table : LineTable)
    (offset : UInt32) :
    table.position? offset = none ↔
      (table.place offset).1.toNat = UInt32.size - 1 ∨
        (table.place offset).2.toNat = UInt32.size - 1 := by
  rw [← Text.increment?_eq_none_iff,
    ← Text.increment?_eq_none_iff]
  simp only [position?]
  cases Text.increment? (table.place offset).1 with
  | none => simp
  | some line =>
      cases Text.increment? (table.place offset).2 with
      | none => simp
      | some column => simp

/- A position that fits counts both numbers from one. -/
theorem spot_of_position?
    {table : LineTable}
    {offset : UInt32}
    {position : Position}
    (hPosition : table.position? offset = some position) :
    table.position offset = position ∧
      position.spot =
        ⟨(table.place offset).1.toNat + 1,
          (table.place offset).2.toNat + 1⟩ := by
  simp only [position?, Option.bind_eq_bind,
    Option.bind_eq_some_iff, Option.pure_def,
    Option.some.injEq] at hPosition
  rcases hPosition with ⟨line, hLine, column, hColumn, rfl⟩
  rcases Text.eq_add_one_of_increment? hLine with
    ⟨rfl, hLineNat⟩
  rcases Text.eq_add_one_of_increment? hColumn with
    ⟨rfl, hColumnNat⟩
  refine ⟨rfl, ?_⟩
  rw [Position.spot, hLineNat, hColumnNat]

section OfSource

variable {source : String}

/- The positions that do not fit in 32 bits. -/
theorem position?_eq_none_iff
    (hShort : Text.byteLength source.toList < UInt32.size)
    (offset : UInt32) :
    (ofSource source).position? offset = none ↔
      Overflows source offset := by
  have hLineLe :
      ((ofSource source).place offset).1.toNat ≤
        min offset.toNat (Text.byteLength source.toList) := by
    rw [place_line hShort]
    exact Text.count_take_le _ _
  have hColumnLe := place_column_le hShort offset
  have hOffset := offset.toNat_lt_size
  rw [position?_eq_none]
  by_cases hLast :
      Text.byteLength source.toList = UInt32.size - 1 ∧
        offset.toNat = UInt32.size - 1
  · rcases hLast with ⟨hLength, hEnd⟩
    have hWalk :=
      place_end hShort
        (Nat.le_of_eq (hLength.trans hEnd.symm))
    have hLines := Text.walk_line_full source.toList
    have hColumns := Text.walk_column_full source.toList
    rw [hWalk, hLength, Nat.add_right_cancel_iff] at hLines
    rw [hWalk, hLength, Nat.add_right_cancel_iff] at hColumns
    rw [hLines, hColumns]
    unfold Overflows
    rw [and_iff_right hLength, and_iff_right hEnd]
  · apply iff_of_false
    · intro hFull
      apply hLast
      omega
    · intro hOverflows
      exact hLast ⟨hOverflows.1, hOverflows.2.1⟩

/- Offsets between characters have positions in their order. -/
theorem position?_before
    (hShort : Text.byteLength source.toList < UInt32.size)
    {lower upper : UInt32}
    (hLower : Text.IsBoundary source.toList lower.toNat)
    (hUpper : Text.IsBoundary source.toList upper.toNat)
    (hLt : lower < upper)
    {first second : Position}
    (hFirst : (ofSource source).position? lower = some first)
    (hSecond :
      (ofSource source).position? upper = some second) :
    first.spot.Before second.spot := by
  have hLess := UInt32.lt_iff_toNat_lt.mp hLt
  rcases hLower.between hUpper (Nat.le_of_lt hLess) with
    ⟨before, inside, after, hSource, hBefore, hInside⟩
  have hLength := congrArg Text.byteLength hSource
  rw [Text.byteLength_append, Text.byteLength_append] at hLength
  have hCut : source.toList = before ++ (inside ++ after) := by
    rw [hSource, List.append_assoc]
  have hLowerEnd :
      Text.byteLength before =
        min lower.toNat (Text.byteLength source.toList) := by
    omega
  have hUpperEnd :
      Text.byteLength (before ++ inside) =
        min upper.toNat (Text.byteLength source.toList) := by
    rw [Text.byteLength_append]
    omega
  have hSome : inside ≠ [] := by
    intro hNone
    rw [hNone, Text.byteLength_nil] at hInside
    omega
  rw [(spot_of_position? hFirst).2,
    (spot_of_position? hSecond).2,
    ← place_boundary hShort hCut hLowerEnd,
    ← place_boundary hShort hSource hUpperEnd,
    Spot.walk_append]
  exact Spot.before_walk hSome _

end OfSource

/-
  A lookup never fails, and only the end of a text of the
  greatest length can have a position that does not fit in 32
  bits.  The line of a position counts the line feeds among
  the bytes before the offset.  Between two characters the
  position is where a walk through the characters before it
  ends, so positions come in the order of their offsets.
-/
theorem position_follows_walk
    (source : String)
    (hShort : Text.byteLength source.toList < UInt32.size) :
    (∀ offset,
      ((ofSource source).place? offset).isSome = true ∧
        ((ofSource source).position? offset = none ↔
          Overflows source offset) ∧
        ∀ position,
          (ofSource source).position? offset = some position →
            (ofSource source).position offset = position ∧
            position.line.toNat =
              1 +
                ((Text.bytes source.toList).take
                  (min offset.toNat
                    (Text.byteLength source.toList))).count
                  0xA ∧
            ∀ before after,
              source.toList = before ++ after →
              Text.byteLength before =
                  min offset.toNat
                    (Text.byteLength source.toList) →
                position.spot = Spot.walk ⟨1, 1⟩ before) ∧
      ∀ lower upper,
        Text.IsBoundary source.toList lower.toNat →
        Text.IsBoundary source.toList upper.toNat →
        lower < upper →
          ∀ first second,
            (ofSource source).position? lower = some first →
            (ofSource source).position? upper = some second →
              first.spot.Before second.spot := by
  constructor
  · intro offset
    refine
      ⟨place?_isSome _ offset,
        position?_eq_none_iff hShort offset, ?_⟩
    intro position hPosition
    rcases spot_of_position? hPosition with ⟨hTotal, hSpot⟩
    refine ⟨hTotal, ?_, ?_⟩
    · have hLine := congrArg Spot.line hSpot
      rw [place_line hShort, Nat.add_comm] at hLine
      exact hLine
    · intro before after hSource hOffset
      rw [hSpot, place_boundary hShort hSource hOffset]
  · intro lower upper hLower hUpper hLt first second
      hFirst hSecond
    exact
      position?_before hShort hLower hUpper hLt hFirst hSecond

/- Three bytes before the second line, and three for an arrow. -/
theorem position_follows_walk_arrow :
    Text.byteLength "é\n→x".toList < UInt32.size ∧
      Text.IsBoundary "é\n→x".toList 3 ∧
      Text.IsBoundary "é\n→x".toList 6 ∧
      ∃ first second,
        (ofSource "é\n→x").position? 3 = some first ∧
          (ofSource "é\n→x").position? 6 = some second ∧
          (ofSource "é\n→x").position 6 = second ∧
          second = ⟨2, 2⟩ ∧
          first.spot.Before second.spot := by
  have hShort : Text.byteLength "é\n→x".toList < UInt32.size := by
    decide +kernel
  have hLower : Text.IsBoundary "é\n→x".toList 3 := by
    decide +kernel
  have hUpper : Text.IsBoundary "é\n→x".toList 6 := by
    decide +kernel
  rcases position_follows_walk "é\n→x" hShort with
    ⟨hWalks, hOrder⟩
  have hFits :
      ∀ offset,
        ∃ position,
          (ofSource "é\n→x").position? offset =
            some position := by
    intro offset
    apply Option.ne_none_iff_exists'.mp
    rw [ne_eq, (hWalks offset).2.1]
    intro hOverflows
    exact absurd hOverflows.1 (by decide +kernel)
  rcases hFits 3 with ⟨first, hFirst⟩
  rcases hFits 6 with ⟨second, hSecond⟩
  rcases (hWalks 6).2.2 second hSecond with
    ⟨hTotal, _, hWalk⟩
  have hSpot :=
    hWalk ['é', '\n', '→'] ['x'] (by decide) (by decide +kernel)
  have hArrow : second = ⟨2, 2⟩ := by
    rcases second with ⟨line, column⟩
    have hLine : line.toNat = 2 := congrArg Spot.line hSpot
    have hColumn : column.toNat = 2 :=
      congrArg Spot.column hSpot
    rw [Position.mk.injEq, ← UInt32.toNat_inj,
      ← UInt32.toNat_inj]
    exact ⟨hLine, hColumn⟩
  refine
    ⟨hShort, hLower, hUpper, first, second, hFirst, hSecond,
      hTotal, hArrow, ?_⟩
  exact hOrder 3 6 hLower hUpper (by decide) _ _ hFirst hSecond

/- Behind as many line feeds as there can be. -/
theorem position_of_feeds
    {source : String}
    {count : Nat}
    (hCount : count + 1 = UInt32.size - 1)
    (hSource :
      source.toList = List.replicate (count + 1) '\n') :
    Text.byteLength source.toList < UInt32.size ∧
      Spot.walk ⟨1, 1⟩ source.toList = ⟨UInt32.size, 1⟩ ∧
      (ofSource source).position? (UInt32.ofNat (count + 1)) =
        none ∧
      (ofSource source).position (UInt32.ofNat (count + 1)) =
        ⟨0, 1⟩ := by
  rcases Text.walk_feeds hSource with ⟨hLength, hWalk⟩
  have hShort : Text.byteLength source.toList < UInt32.size := by
    omega
  have hOffset :
      (UInt32.ofNat (count + 1)).toNat = count + 1 := by
    apply UInt32.toNat_ofNat_of_lt'
    omega
  have hEnd :
      Text.byteLength source.toList ≤
        (UInt32.ofNat (count + 1)).toNat := by
    omega
  have hPlace := place_end hShort hEnd
  rw [hWalk, Spot.mk.injEq] at hPlace
  rcases hPlace with ⟨hLine, hColumn⟩
  have hLast :
      ((ofSource source).place
        (UInt32.ofNat (count + 1))).1.toNat =
          UInt32.size - 1 := by
    omega
  have hFirst :
      ((ofSource source).place
        (UInt32.ofNat (count + 1))).2 = 0 := by
    apply UInt32.toNat_inj.mp
    exact (Nat.succ.inj hColumn).symm
  refine ⟨hShort, ?_, ?_, ?_⟩
  · rw [hWalk, hCount]
    rfl
  · exact (position?_eq_none _ _).mpr (.inl hLast)
  · rw [LineTable.position, Position.mk.injEq, hFirst]
    exact ⟨(Text.add_one_eq_zero_iff _).mpr hLast, rfl⟩

/-
  The walk through as many line feeds ends at the first line
  that has no number.
-/
theorem position_wraps_behind_feeds :
    ∃ source : String,
      source.toList = List.replicate 4294967295 '\n' ∧
        Text.byteLength source.toList < UInt32.size ∧
        Spot.walk ⟨1, 1⟩ source.toList = ⟨4294967296, 1⟩ ∧
        (ofSource source).position? 4294967295 = none ∧
        (ofSource source).position 4294967295 = ⟨0, 1⟩ :=
  ⟨String.ofList (List.replicate 4294967295 '\n'),
    String.toList_ofList, position_of_feeds rfl String.toList_ofList⟩

end LineTable

end MarkupLowering
