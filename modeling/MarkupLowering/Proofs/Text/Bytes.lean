import MarkupLowering.Text.Span

/-
  This file shows how byte offsets cut a text: an offset
  between two characters splits it in two, and a span between
  two such offsets denotes the characters between them.

  Key definitions include:
    * `Text.IsBoundary`

  Key theorems include:
    * `Text.splitBytes_append`
    * `Text.isBoundary_iff`
    * `Text.IsBoundary.split`
    * `Text.IsBoundary.between`
    * `Text.clip_append`
    * `Text.clip_cut`
-/

namespace MarkupLowering

namespace Text

------------------------------------------------------------
-- Lengths
------------------------------------------------------------

@[simp]
theorem byteLength_nil : byteLength [] = 0 :=
  rfl

@[simp]
theorem byteLength_append
    (first second : List Char) :
    byteLength (first ++ second) =
      byteLength first + byteLength second := by
  induction first with
  | nil => simp
  | cons c first ih =>
      rw [List.cons_append]
      simp only [byteLength]
      rw [ih, Nat.add_assoc]

/- Every character takes a byte at least. -/
theorem eq_nil_of_byteLength
    {chars : List Char}
    (hLength : byteLength chars = 0) :
    chars = [] := by
  cases chars with
  | nil => rfl
  | cons c rest =>
      have hPositive := c.utf8Size_pos
      simp only [byteLength] at hLength
      omega

------------------------------------------------------------
-- Splitting
------------------------------------------------------------

/- A text is split after the bytes of its first part. -/
theorem splitBytes_append
    (before after : List Char) :
    splitBytes (before ++ after) (byteLength before) =
      some (before, after) := by
  induction before with
  | nil => simp [splitBytes]
  | cons c before ih =>
      have hPositive := c.utf8Size_pos
      have hLength :
          byteLength (c :: before) =
            c.utf8Size + byteLength before - 1 + 1 := by
        simp only [byteLength]
        omega
      have hRest :
          c.utf8Size + byteLength before - 1 + 1 - c.utf8Size =
            byteLength before := by
        omega
      rw [hLength, List.cons_append]
      simp only [splitBytes]
      rw [if_pos (by omega), hRest, ih]

theorem eq_append_of_splitBytes
    {chars before after : List Char}
    {offset : Nat}
    (hSplit : splitBytes chars offset = some (before, after)) :
    chars = before ++ after ∧ byteLength before = offset := by
  induction chars generalizing before offset with
  | nil =>
      cases offset with
      | zero =>
          cases hSplit
          exact ⟨rfl, rfl⟩
      | succ offset => cases hSplit
  | cons c chars ih =>
      cases offset with
      | zero =>
          cases hSplit
          exact ⟨rfl, rfl⟩
      | succ offset =>
          simp only [splitBytes] at hSplit
          split at hSplit
          · rename_i hFits
            split at hSplit
            · rename_i inner rest hInner
              cases hSplit
              rcases ih hInner with ⟨hChars, hLength⟩
              refine ⟨by rw [hChars, List.cons_append], ?_⟩
              simp only [byteLength, hLength]
              omega
            · cases hSplit
          · cases hSplit

------------------------------------------------------------
-- Boundaries
------------------------------------------------------------

/- The offset lies between two characters or at an end. -/
def IsBoundary
    (source : List Char)
    (offset : Nat) : Prop :=
  ∃ before after,
    source = before ++ after ∧ byteLength before = offset

theorem isBoundary_iff
    (source : List Char)
    (offset : Nat) :
    IsBoundary source offset ↔
      (splitBytes source offset).isSome = true := by
  constructor
  · rintro ⟨before, after, hSource, hOffset⟩
    rw [hSource, ← hOffset, splitBytes_append]
    rfl
  · intro hSome
    rcases Option.isSome_iff_exists.mp hSome with
      ⟨⟨before, after⟩, hSplit⟩
    exact ⟨before, after, eq_append_of_splitBytes hSplit⟩

instance
    (source : List Char)
    (offset : Nat) :
    Decidable (IsBoundary source offset) :=
  decidable_of_iff _ (isBoundary_iff source offset).symm

/-
  A boundary inside the middle one of three texts splits this
  text.
-/
theorem IsBoundary.split
    {before inside after : List Char}
    {offset : Nat}
    (hBoundary : IsBoundary (before ++ inside ++ after) offset)
    (hStart : byteLength before ≤ offset)
    (hStop : offset ≤ byteLength before + byteLength inside) :
    ∃ left right,
      inside = left ++ right ∧
        byteLength before + byteLength left = offset := by
  rcases hBoundary with ⟨first, second, hSource, hOffset⟩
  -- The part before the boundary reaches past `before`.
  have hFirst : ∃ left, first = before ++ left := by
    rw [List.append_assoc] at hSource
    rcases List.append_eq_append_iff.mp hSource with
      ⟨left, hLeft, _⟩ | ⟨left, hLeft, _⟩
    · exact ⟨left, hLeft⟩
    · rw [hLeft, byteLength_append] at hStart
      have hNil : left = [] :=
        eq_nil_of_byteLength (by omega)
      refine ⟨[], ?_⟩
      rw [hLeft, hNil, List.append_nil, List.append_nil]
  rcases hFirst with ⟨left, hFirst⟩
  rw [hFirst, byteLength_append] at hOffset
  rw [hFirst, List.append_assoc, List.append_assoc] at hSource
  have hInside := List.append_cancel_left hSource
  -- It does not reach past `inside`.
  rcases List.append_eq_append_iff.mp hInside with
    ⟨extra, hExtra, _⟩ | ⟨right, hRight, _⟩
  · rw [hExtra, byteLength_append] at hOffset
    have hNil : extra = [] :=
      eq_nil_of_byteLength (by omega)
    refine ⟨inside, [], (List.append_nil _).symm, ?_⟩
    rw [hNil, byteLength_nil] at hOffset
    omega
  · exact ⟨left, right, hRight, hOffset⟩

/- Two boundaries cut a text in three. -/
theorem IsBoundary.between
    {source : List Char}
    {start stop : Nat}
    (hStart : IsBoundary source start)
    (hStop : IsBoundary source stop)
    (hLe : start ≤ stop) :
    ∃ before inside after,
      source = before ++ inside ++ after ∧
        byteLength before = start ∧
        start + byteLength inside = stop := by
  rcases hStop with ⟨front, after, hSource, hFront⟩
  have hWithin : IsBoundary ([] ++ front ++ after) start := by
    rw [List.nil_append, ← hSource]
    exact hStart
  rcases hWithin.split (Nat.zero_le _) (by
      rw [byteLength_nil]
      omega) with
    ⟨before, inside, hSplit, hLength⟩
  rw [byteLength_nil, Nat.zero_add] at hLength
  refine ⟨before, inside, after, ?_, hLength, ?_⟩
  · rw [hSource, hSplit]
  · rw [hSplit, byteLength_append] at hFront
    omega

------------------------------------------------------------
-- Clips
------------------------------------------------------------


/- A clip is what stands between its ends. -/
theorem clip_append
    {source before inside after : List Char}
    {start stop : Nat}
    (hSource : source = before ++ inside ++ after)
    (hStart : byteLength before = start)
    (hStop : start + byteLength inside = stop) :
    clip source start stop = inside := by
  have hLength :
      byteLength source =
        stop + byteLength after := by
    rw [hSource, byteLength_append,
      byteLength_append, hStart, hStop]
  have hMinStop : min stop (byteLength source) = stop := by
    omega
  have hMinStart : min start stop = start := by
    omega
  have hInside : stop - start = byteLength inside := by
    omega
  unfold clip
  simp only [hMinStop, hMinStart, hInside]
  rw [hSource, List.append_assoc, ← hStart,
    splitBytes_append]
  simp only [splitBytes_append]

/- A clip that ends before it starts is empty. -/
theorem clip_eq_nil
    {start stop : Nat}
    (hLe : stop ≤ start)
    (source : List Char) :
    clip source start stop = [] := by
  have hEmpty :
      min stop (byteLength source) -
          min start (min stop (byteLength source)) =
        0 := by
    omega
  unfold clip
  simp only [hEmpty]
  split
  · rfl
  · simp [splitBytes]

/- The text between two different boundaries is not empty. -/
theorem clip_ne_nil
    {source : List Char}
    {start stop : Nat}
    (hStart : IsBoundary source start)
    (hStop : IsBoundary source stop)
    (hLt : start < stop) :
    clip source start stop ≠ [] := by
  rcases hStart.between hStop (Nat.le_of_lt hLt) with
    ⟨before, inside, after, hSource, hBefore, hInside⟩
  rw [clip_append hSource hBefore hInside]
  intro hNil
  rw [hNil, byteLength_nil] at hInside
  omega

/- Text is cut at a boundary inside it. -/
theorem clip_cut
    {source : List Char}
    {start middle stop : Nat}
    (hStart : IsBoundary source start)
    (hMiddle : IsBoundary source middle)
    (hStop : IsBoundary source stop)
    (hFirst : start ≤ middle)
    (hSecond : middle ≤ stop) :
    clip source start stop =
      clip source start middle ++
        clip source middle stop := by
  rcases hStart.between hStop (Nat.le_trans hFirst hSecond) with
    ⟨before, inside, after, hSource, hBefore, hInside⟩
  have hWithin := hMiddle
  rw [hSource] at hWithin
  rcases hWithin.split (by omega) (by omega) with
    ⟨left, right, hSplit, hLeft⟩
  have hLength := congrArg byteLength hSplit
  rw [byteLength_append] at hLength
  have hSourceLeft :
      source = before ++ left ++ (right ++ after) := by
    rw [hSource, hSplit]
    simp only [List.append_assoc]
  have hSourceRight :
      source = (before ++ left) ++ right ++ after := by
    rw [hSourceLeft]
    simp only [List.append_assoc]
  rw [clip_append hSource hBefore hInside,
    clip_append hSourceLeft hBefore (by omega),
    clip_append hSourceRight
      (by rw [byteLength_append, hLeft]) (by omega),
    hSplit]

end Text

end MarkupLowering
