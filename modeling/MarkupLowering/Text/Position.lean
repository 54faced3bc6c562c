import MarkupLowering.Text.Span

/-
  This file defines positions by line and column and finds
  the position of a byte offset.  The line is looked up in a
  table of line starts by halving the table; the column counts
  characters from the start of the line.

  All numbers have 32 bits.  A lookup reads the table and
  subtracts offsets.  It fails if a read lies outside of the
  table or a difference lies below zero.  Every table begins
  with the offset zero, so this does not happen.  Counting
  from one can overflow, however.

  Key definitions include:
    * `Position`
    * `Text.search`
    * `Text.slice?`
    * `LineTable`
    * `LineTable.ofSource`
    * `LineTable.place?`
    * `LineTable.position?`
    * `LineTable.position`

  Key theorems include:
    * `LineTable.line?_eq_narrow`
    * `LineTable.place?_isSome`
-/

namespace MarkupLowering

/- A line and a column, both counted from one. -/
structure Position where
  line : UInt32
  column : UInt32
deriving DecidableEq, Repr, Inhabited

/- A position as text. -/
def Position.display (position : Position) : String :=
  toString position.line.toNat ++ ":"
    ++ toString position.column.toNat

namespace Text

------------------------------------------------------------
-- Bytes
------------------------------------------------------------

/- The bytes of the UTF-8 form. -/
def bytes (cs : List Char) : List UInt8 :=
  cs.flatMap String.utf8EncodeChar

/-
  The offsets that follow a line feed, for bytes that begin at
  the given offset.
-/
def lineStartsFrom (offset : Nat) : List UInt8 → List Nat
  | [] => []
  | byte :: rest =>
      if byte = 0xA then
        (offset + 1) :: lineStartsFrom (offset + 1) rest
      else
        lineStartsFrom (offset + 1) rest

/-
  The characters between two offsets.  There are none unless
  the offsets are in order, and each of them lies between two
  characters or at an end.
-/
def slice?
    (source : List Char)
    (start stop : Nat) : Option (List Char) :=
  if start ≤ stop then do
    let (_, rest) ← splitBytes source start
    let (inside, _) ← splitBytes rest (stop - start)
    return inside
  else
    none

/- A difference, unless it lies below zero. -/
def subtract?
    {α : Type}
    [LE α]
    [DecidableLE α]
    [Sub α]
    (m n : α) : Option α :=
  if n ≤ m then
    some (m - n)
  else
    none

/- The number after one of 32 bits, unless it has more. -/
def increment? (n : UInt32) : Option UInt32 :=
  if n + 1 = 0 then
    none
  else
    some (n + 1)

------------------------------------------------------------
-- Searching
------------------------------------------------------------

/-
  What a search in an ordered table ends with: the index of
  the key, or the index at which the key could be put in.
-/
inductive Lookup where
  | entry (index : Nat)
  | gap (next : Nat)
deriving DecidableEq, Repr

/-
  Narrow a stretch of a table down to one entry.  Of the two
  halves the second is kept if it does not begin above the
  key.
-/
def narrow
    (table : Array UInt32)
    (key : UInt32)
    (base : Fin table.size)
    (size : Nat)
    (hFits : base + size ≤ table.size) : Fin table.size :=
  if hMany : 1 < size then
    let middle : Fin table.size := ⟨base + size / 2, by omega⟩
    if key < table[middle] then
      narrow table key base (size - size / 2) (by omega)
    else
      narrow table key middle (size - size / 2)
        (by simp only [middle]; omega)
  else
    base
termination_by size

/- Search a key in an ordered table. -/
def search
    (table : Array UInt32)
    (key : UInt32) : Lookup :=
  if hBegun : 0 < table.size then
    let base :=
      narrow table key ⟨0, hBegun⟩ table.size (by simp)
    if table[base] = key then
      .entry base
    else if table[base] < key then
      .gap (base + 1)
    else
      .gap base
  else
    .gap 0

/- A search never moves to an entry above the key. -/
theorem narrow_le
    {table : Array UInt32}
    {key : UInt32}
    {size : Nat}
    {base index : Fin table.size}
    {hFits : base + size ≤ table.size}
    (hBase : table[base] ≤ key) :
    narrow table key base size hFits = index →
      table[index] ≤ key := by
  fun_induction narrow table key base size hFits with
  | case1 base size hFits hMany middle hAbove ih =>
      exact ih hBase
  | case2 base size hFits hMany middle hAbove ih =>
      exact ih (UInt32.not_lt.mp hAbove)
  | case3 base size hFits hMany =>
      intro hIndex
      rw [← hIndex]
      exact hBase

end Text

------------------------------------------------------------
-- Line Tables
------------------------------------------------------------

/-
  A source text with the byte offsets of its line starts, of
  which the first is zero.
-/
structure LineTable where
  source : List Char
  starts : Array UInt32
  begins : starts[0]? = some 0

namespace LineTable

/- The line table of a source text. -/
def ofSource (source : String) : LineTable where
  source := source.toList
  starts :=
    let later := Text.lineStartsFrom 0 (Text.bytes source.toList)
    ((0 :: later).map UInt32.ofNat).toArray
  begins := by simp

/- The line of an offset, counted from zero. -/
def line?
    (table : LineTable)
    (offset : UInt32) : Option Nat :=
  match Text.search table.starts offset with
  | .entry index => some index
  | .gap next => Text.subtract? next 1

/-
  The column of an offset in the line that starts at
  `lineStart`, counted from zero.  Inside a character it
  counts bytes.
-/
def column?
    (table : LineTable)
    (lineStart offset : UInt32) : Option UInt32 :=
  match
    Text.slice? table.source lineStart.toNat offset.toNat
  with
  | some passed => some (UInt32.ofNat passed.length)
  | none => Text.subtract? offset lineStart

/- An offset past the end is taken as the end. -/
def clamp
    (table : LineTable)
    (offset : UInt32) : UInt32 :=
  min offset (UInt32.ofNat (Text.byteLength table.source))

/-
  The line and the column of a byte offset, both counted from
  zero, unless the lookup fails.
-/
def place?
    (table : LineTable)
    (offset : UInt32) : Option (UInt32 × UInt32) := do
  let line ← table.line? (table.clamp offset)
  let lineStart ← table.starts[line]?
  let column ← table.column? lineStart (table.clamp offset)
  return (UInt32.ofNat line, column)

theorem size_starts_pos
    (table : LineTable) :
    0 < table.starts.size := by
  rcases Array.getElem?_eq_some_iff.mp table.begins with
    ⟨hBegun, _⟩
  exact hBegun

/- The line of an offset is the entry that a search ends at. -/
theorem line?_eq_narrow
    (table : LineTable)
    (offset : UInt32)
    {index : Fin table.starts.size}
    (hIndex :
      Text.narrow table.starts offset
          ⟨0, table.size_starts_pos⟩ table.starts.size
          (Nat.le_of_eq (Nat.zero_add _)) =
        index) :
    table.line? offset = some index.val ∧
      table.starts[index] ≤ offset := by
  have hZero : table.starts[0]? = some 0 := table.begins
  rw [Array.getElem?_eq_getElem table.size_starts_pos,
    Option.some.injEq] at hZero
  have hLe : table.starts[index] ≤ offset :=
    Text.narrow_le (by simp [hZero]) hIndex
  refine ⟨?_, hLe⟩
  unfold line? Text.search
  simp only [table.size_starts_pos, dite_true, hIndex]
  by_cases hExact : table.starts[index] = offset
  · rw [if_pos hExact]
  · -- The key lies behind the entry, so the gap comes next.
    rw [if_neg hExact, if_pos (UInt32.lt_of_le_of_ne hLe hExact)]
    simp [Text.subtract?]

/- The line found for an offset begins at it or before it. -/
theorem line?_eq_some
    (table : LineTable)
    (offset : UInt32) :
    ∃ line lineStart,
      table.line? offset = some line ∧
        table.starts[line]? = some lineStart ∧
        lineStart ≤ offset := by
  rcases table.line?_eq_narrow offset rfl with ⟨hLine, hLe⟩
  exact ⟨_, _, hLine, by simp, hLe⟩

/- A lookup does not fail. -/
theorem place?_isSome
    (table : LineTable)
    (offset : UInt32) :
    (table.place? offset).isSome = true := by
  rcases table.line?_eq_some (table.clamp offset) with
    ⟨line, lineStart, hLine, hStart, hLe⟩
  have hColumn :
      ∃ column,
        table.column? lineStart (table.clamp offset) =
          some column := by
    unfold column?
    split
    · exact ⟨_, rfl⟩
    · exact ⟨_, if_pos hLe⟩
  rcases hColumn with ⟨column, hColumn⟩
  simp [place?, hLine, hStart, hColumn]

/- The line and the column, both counted from zero. -/
def place
    (table : LineTable)
    (offset : UInt32) : UInt32 × UInt32 :=
  (table.place? offset).get (table.place?_isSome offset)

/- The position of a byte offset, unless a number overflows. -/
def position?
    (table : LineTable)
    (offset : UInt32) : Option Position := do
  let (line, column) := table.place offset
  return ⟨← Text.increment? line, ← Text.increment? column⟩

/-
  The position of a byte offset.  A number that overflows
  begins again at zero.
-/
def position
    (table : LineTable)
    (offset : UInt32) : Position :=
  let (line, column) := table.place offset
  ⟨line + 1, column + 1⟩

end LineTable

end MarkupLowering
