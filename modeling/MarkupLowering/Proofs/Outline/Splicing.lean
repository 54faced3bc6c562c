import MarkupLowering.Proofs.Outline.Adequacy
import MarkupLowering.Proofs.Tree.Refinement
import MarkupLowering.Transform

/-
  This file shows that lowering a module keeps all text
  outside elements.  The text of code is cut at the elements
  that stand directly in it, and what they become is put in
  their places.  The import is added after the prologue of the
  module, or first if there is none.

  Where elements stand is up to the reader of the source text.
  It is assumed that elements are inside the code they belong
  to, apart from each other, and do not begin or end within a
  character.

  Key definitions include:
    * `Patched`
    * `Code.SplicedTo`
    * `Code.WellPlaced`
    * `Outline.WellPlaced`

  Key theorems include:
    * `spliceFrom_patched`
    * `Code.splicedTo_of_emitted`
    * `Patched.keeps_front`
    * `transform_keeps_text`
-/

namespace MarkupLowering

------------------------------------------------------------
-- Patched Text
------------------------------------------------------------

/-
  A text that begins at an offset, and the same text with
  spans of it replaced.  The spans come in order.
-/
inductive Patched :
    Nat → List Char → List (Patch String) → List Char → Prop
  | done
      (offset : Nat)
      (rest : List Char) :
      Patched offset rest [] rest
  | patch
      {offset : Nat}
      {gap old rest result : List Char}
      {patch : Patch String}
      {patches : List (Patch String)}
      (hStart :
        offset + Text.byteLength gap = patch.span.start)
      (hStop :
        patch.span.start + Text.byteLength old =
          patch.span.stop)
      (hRest : Patched patch.span.stop rest patches result) :
      Patched offset (gap ++ old ++ rest) (patch :: patches)
        (gap ++ patch.text.toList ++ result)

/-
  The text of a span of the source text, with spans inside it
  replaced.
-/
def PatchedSpan
    (source : List Char)
    (span : Span)
    (patches : List (Patch String))
    (text : String) : Prop :=
  ∃ before inside after,
    source = before ++ inside ++ after ∧
      Text.byteLength before = span.start ∧
      span.start + Text.byteLength inside = span.stop ∧
      Patched span.start inside patches text.toList

/-
  Code becomes a text: its own one, with the elements directly
  in it replaced by what they become.
-/
def Code.SplicedTo
    (config : Config String)
    (source : List Char)
    (around : Surroundings)
    (code : Code Declaration)
    (text : String) : Prop :=
  ∃ patches : List (Patch String),
    (patches.map Patch.found).Perm
        ((code.outermost around).map
          (placedPatch config source)) ∧
      PatchedSpan source code.span patches text

------------------------------------------------------------
-- Placement
------------------------------------------------------------

/- A span inside another one, between characters. -/
structure Span.Inside
    (source : List Char)
    (span outer : Span) : Prop where
  lower : outer.start ≤ span.start
  upper : span.stop ≤ outer.stop
  start : Text.IsBoundary source span.start
  stop : Text.IsBoundary source span.stop

/- Neither of two spans begins before the other one ends. -/
def Span.Apart (first second : Span) : Prop :=
  first.stop ≤ second.start ∨ second.stop ≤ first.start

/-
  Code whose elements stand apart from each other inside it.
  An element takes up some text.
-/
structure Code.WellPlaced
    (source : List Char)
    (around : Surroundings)
    (code : Code Declaration) : Prop where
  ordered : code.span.start ≤ code.span.stop
  bounds : code.span.Inside source code.span
  inside :
    ∀ placed ∈ code.outermost around,
      placed.2.span.Inside source code.span ∧
        placed.2.span.start < placed.2.span.stop
  apart :
    (code.outermost around).Pairwise fun first second =>
      first.2.span.Apart second.2.span

/-
  A module in which all code is well placed and the prologue
  ends before the first element.
-/
structure Outline.WellPlaced
    (source : String)
    (outline : Outline) : Prop where
  codes :
    ∀ placed ∈ (outline.whole source).embedded [],
      placed.2.WellPlaced source.toList placed.1
  prologue :
    Text.IsBoundary source.toList outline.prologueEnd
  before :
    ∀ placed ∈ (outline.whole source).outermost [],
      outline.prologueEnd ≤ placed.2.span.start

instance
    (source : List Char)
    (span outer : Span) :
    Decidable (span.Inside source outer) :=
  decidable_of_iff
    (outer.start ≤ span.start ∧ span.stop ≤ outer.stop ∧
      Text.IsBoundary source span.start ∧
      Text.IsBoundary source span.stop)
    ⟨fun ⟨hLower, hUpper, hStart, hStop⟩ =>
      ⟨hLower, hUpper, hStart, hStop⟩,
    fun hInside =>
      ⟨hInside.lower, hInside.upper, hInside.start,
        hInside.stop⟩⟩

instance
    (first second : Span) :
    Decidable (first.Apart second) :=
  inferInstanceAs (Decidable (_ ∨ _))

instance
    (source : List Char)
    (around : Surroundings)
    (code : Code Declaration) :
    Decidable (code.WellPlaced source around) :=
  decidable_of_iff
    (code.span.start ≤ code.span.stop ∧
      code.span.Inside source code.span ∧
      (∀ placed ∈ code.outermost around,
        placed.2.span.Inside source code.span ∧
          placed.2.span.start < placed.2.span.stop) ∧
      (code.outermost around).Pairwise fun first second =>
        first.2.span.Apart second.2.span)
    ⟨fun ⟨hOrdered, hBounds, hInside, hApart⟩ =>
      ⟨hOrdered, hBounds, hInside, hApart⟩,
    fun hPlaced =>
      ⟨hPlaced.ordered, hPlaced.bounds, hPlaced.inside,
        hPlaced.apart⟩⟩

instance
    (source : String)
    (outline : Outline) :
    Decidable (outline.WellPlaced source) :=
  decidable_of_iff
    ((∀ placed ∈ (outline.whole source).embedded [],
        placed.2.WellPlaced source.toList placed.1) ∧
      Text.IsBoundary source.toList outline.prologueEnd ∧
      ∀ placed ∈ (outline.whole source).outermost [],
        outline.prologueEnd ≤ placed.2.span.start)
    ⟨fun ⟨hCodes, hPrologue, hBefore⟩ =>
      ⟨hCodes, hPrologue, hBefore⟩,
    fun hPlaced =>
      ⟨hPlaced.codes, hPlaced.prologue, hPlaced.before⟩⟩

------------------------------------------------------------
-- Splicing
------------------------------------------------------------

/-
  A span between two offsets, with both ends between
  characters.  The offsets are where code is cut, and no span
  need begin or end there.
-/
structure Span.Within
    (source : List Char)
    (lower upper : Nat)
    (span : Span) : Prop where
  lower : lower ≤ span.start
  upper : span.stop ≤ upper
  start : Text.IsBoundary source span.start
  stop : Text.IsBoundary source span.stop

theorem Span.Inside.within
    {source : List Char}
    {span outer : Span}
    (hInside : span.Inside source outer) :
    span.Within source outer.start outer.stop :=
  ⟨hInside.lower, hInside.upper, hInside.start, hInside.stop⟩

/- A span stays inside what is left in front of it. -/
theorem Span.Within.narrow
    {source : List Char}
    {span : Span}
    {lower upper start : Nat}
    (hWithin : span.Within source lower upper)
    (hLower : start ≤ span.start) :
    span.Within source start upper :=
  ⟨hLower, hWithin.upper, hWithin.start, hWithin.stop⟩

/- A span inside a text cuts it in three. -/
theorem Span.Within.split
    {source before inside after : List Char}
    {span : Span}
    {lower upper : Nat}
    (hWithin : span.Within source lower upper)
    (hOrdered : span.start ≤ span.stop)
    (hSource : source = before ++ inside ++ after)
    (hStart : Text.byteLength before = lower)
    (hStop : lower + Text.byteLength inside = upper) :
    ∃ gap old rest,
      inside = gap ++ old ++ rest ∧
        lower + Text.byteLength gap = span.start ∧
        span.start + Text.byteLength old = span.stop := by
  have hLower := hWithin.lower
  have hUpper := hWithin.upper
  have hFirst := hWithin.start
  have hSecond := hWithin.stop
  rw [hSource] at hFirst
  rcases hFirst.split (by omega) (by omega) with
    ⟨gap, tail, hGap, hGapLength⟩
  have hSourceGap :
      source = (before ++ gap) ++ tail ++ after := by
    rw [hSource, hGap]
    simp only [List.append_assoc]
  have hInsideLength :
      Text.byteLength inside =
        Text.byteLength gap + Text.byteLength tail := by
    rw [hGap, Text.byteLength_append]
  have hFrontLength :
      Text.byteLength (before ++ gap) = span.start := by
    rw [Text.byteLength_append, hGapLength]
  rw [hSourceGap] at hSecond
  rcases hSecond.split (by omega) (by omega) with
    ⟨old, rest, hOld, hOldLength⟩
  refine ⟨gap, old, rest, ?_, ?_, ?_⟩
  · rw [hGap, hOld, List.append_assoc]
  · omega
  · omega

/- Splicing ordered patches replaces their spans. -/
theorem spliceFrom_patched
    {source before inside after : List Char}
    {cursor stop : Nat}
    {patches : List (Patch String)}
    {text : String}
    (hSource : source = before ++ inside ++ after)
    (hCursor : Text.byteLength before = cursor)
    (hStop : cursor + Text.byteLength inside = stop)
    (hInside :
      ∀ patch ∈ patches,
        patch.span.Within source cursor stop ∧
          patch.span.start ≤ patch.span.stop)
    (hOrder :
      patches.Pairwise fun first second =>
        first.span.stop ≤ second.span.start)
    (hText :
      spliceFrom source stop cursor
          (patches.map Patch.found) =
        .ok text) :
    Patched cursor inside patches text.toList := by
  induction patches generalizing before inside cursor text with
  | nil =>
      have hChars :
          Text.clip source cursor stop = inside :=
        Text.clip_append hSource hCursor hStop
      simp only [List.map_nil, spliceFrom, hChars] at hText
      cases hText
      rw [String.toList_ofList]
      exact Patched.done cursor inside
  | cons patch patches ih =>
      rcases List.forall_mem_cons.mp hInside with
        ⟨⟨hFirst, hFirstOrdered⟩, hOthers⟩
      rcases List.pairwise_cons.mp hOrder with
        ⟨hLater, hOrder⟩
      rcases hFirst.split hFirstOrdered hSource hCursor hStop with
        ⟨gap, old, rest, hSplit, hGap, hOld⟩
      have hChars :
          Text.clip source cursor patch.span.start =
            gap := by
        have hSourceGap :
            source =
              before ++ gap ++ (old ++ rest ++ after) := by
          rw [hSource, hSplit]
          simp only [List.append_assoc]
        exact Text.clip_append hSourceGap hCursor hGap
      rw [List.map_cons, spliceFrom] at hText
      rcases exists_of_bind_eq_ok hText with
        ⟨own, hOwn, hTail⟩
      rcases exists_of_bind_eq_ok hTail with
        ⟨others, hOthersText, hEq⟩
      cases hOwn
      cases hEq
      -- The rest of the text begins where the patch ends.
      have hRest :
          Patched patch.span.stop rest patches others.toList := by
        have hSourceRest :
            source =
              (before ++ gap ++ old) ++ rest ++ after := by
          rw [hSource, hSplit]
          simp only [List.append_assoc]
        rw [hSplit, Text.byteLength_append,
          Text.byteLength_append] at hStop
        apply ih hSourceRest
        · rw [Text.byteLength_append, Text.byteLength_append,
            hCursor, hGap, hOld]
        · omega
        · intro other hOther
          have hBounds := hOthers other hOther
          exact
            ⟨hBounds.1.narrow (hLater other hOther), hBounds.2⟩
        · exact hOrder
        · exact hOthersText
      rw [hSplit]
      simp only [Patch.found, String.toList_append,
        String.toList_ofList, hChars]
      exact Patched.patch hGap hOld hRest

------------------------------------------------------------
-- Order
------------------------------------------------------------

theorem Span.Apart.symm
    {first second : Span}
    (hApart : first.Apart second) :
    second.Apart first :=
  Or.symm hApart

instance
    {α : Type} :
    Std.Total (@Patch.Precedes α) where
  total first second :=
    Nat.le_total first.span.start second.span.start

instance
    {α : Type} :
    IsTrans (Patch α) Patch.Precedes where
  trans _ _ _ hFirst hSecond := Nat.le_trans hFirst hSecond

/- Patches that stand apart follow each other once sorted. -/
theorem insertionSort_ordered
    {α : Type}
    (patches : List (Patch α))
    (hApart :
      patches.Pairwise fun first second =>
        first.span.Apart second.span)
    (hProper :
      ∀ patch ∈ patches, patch.span.start < patch.span.stop) :
    (patches.insertionSort Patch.Precedes).Pairwise
      fun first second =>
        first.span.stop ≤ second.span.start := by
  have hPerm := List.perm_insertionSort Patch.Precedes patches
  have hSorted :=
    List.pairwise_insertionSort Patch.Precedes patches
  have hSortedApart :
      (patches.insertionSort Patch.Precedes).Pairwise
        fun first second => first.span.Apart second.span :=
    (hPerm.pairwise_iff fun hFirst => hFirst.symm).mpr hApart
  refine (hSorted.and hSortedApart).imp_of_mem ?_
  intro first second _ hSecond hBoth
  have hStart : first.span.start ≤ second.span.start := hBoth.1
  have hSecondProper :=
    hProper second (hPerm.mem_iff.mp hSecond)
  rcases hBoth.2 with hLe | hLe
  · exact hLe
  · omega

------------------------------------------------------------
-- Code
------------------------------------------------------------

/- Every patch stands where an element does. -/
theorem exists_span_eq
    {config : Config String}
    {source : List Char}
    {patches : List (Patch String)}
    {elements : List (Surroundings × Markup Declaration)}
    (hPerm :
      (patches.map Patch.found).Perm
        (elements.map (placedPatch config source)))
    {patch : Patch String}
    (hPatch : patch ∈ patches) :
    ∃ placed ∈ elements, patch.span = placed.2.span := by
  have hFound :=
    hPerm.mem_iff.mp (List.mem_map_of_mem hPatch)
  rcases List.mem_map.mp hFound with ⟨placed, hMember, hEq⟩
  exact ⟨placed, hMember, congrArg Patch.span hEq.symm⟩

/- What well-placed code becomes is its text, spliced. -/
theorem Code.splicedTo_of_emitted
    {config : Config String}
    {source : List Char}
    {around : Surroundings}
    {code : Code Declaration}
    {text : String}
    (hPlaced : code.WellPlaced source around)
    (hText : code.emitted config source around = .ok text) :
    code.SplicedTo config source around text := by
  rcases code with ⟨span, pieces⟩
  rw [Code.emitted, splice, patchesIn_eq] at hText
  rcases found_of_spliceFrom hText with ⟨given, hGiven⟩
  have hPerm :=
    List.perm_insertionSort Patch.Precedes
      ((outermostIn (none :: around) pieces).map
        (placedPatch config source))
  have hOrdered :=
    insertionSort_ordered
      ((outermostIn (none :: around) pieces).map
        (placedPatch config source))
      (List.pairwise_map.mpr hPlaced.apart)
      (List.forall_mem_map.mpr fun placed hMember =>
        (hPlaced.inside placed hMember).2)
  rw [hGiven] at hPerm hText hOrdered
  have hInside :
      ∀ patch ∈ given,
        patch.span.Within source span.start span.stop ∧
          patch.span.start ≤ patch.span.stop := by
    intro patch hPatch
    rcases exists_span_eq hPerm hPatch with
      ⟨placed, hMember, hSpan⟩
    have hElement := hPlaced.inside placed hMember
    rw [hSpan]
    exact ⟨hElement.1.within, Nat.le_of_lt hElement.2⟩
  rcases hPlaced.bounds.start.between hPlaced.bounds.stop
      hPlaced.ordered with
    ⟨before, inside, after, hSource, hStart, hStop⟩
  refine
    ⟨given, hPerm, before, inside, after, hSource, hStart,
      hStop, ?_⟩
  exact
    spliceFrom_patched hSource hStart hStop hInside
      (List.pairwise_map.mp hOrdered) hText

------------------------------------------------------------
-- Modules
------------------------------------------------------------

theorem Patched.eq_of_nil
    {offset : Nat}
    {inside result : List Char}
    (hPatched : Patched offset inside [] result) :
    result = inside := by
  cases hPatched
  rfl

/- Text in front of all patches stays in front. -/
theorem Patched.keeps_front
    {offset : Nat}
    {inside head rest result : List Char}
    {patches : List (Patch String)}
    (hPatched : Patched offset inside patches result)
    (hInside : inside = head ++ rest)
    (hBefore :
      ∀ patch ∈ patches,
        offset + Text.byteLength head ≤ patch.span.start) :
    ∃ tail, result = head ++ tail := by
  cases hPatched with
  | done => exact ⟨rest, hInside⟩
  | @patch _ gap old after result patch patches hStart =>
      have hHead := hBefore patch List.mem_cons_self
      rw [List.append_assoc] at hInside
      rcases List.append_eq_append_iff.mp hInside with
        ⟨extra, hExtra, _⟩ | ⟨more, hMore, _⟩
      · have hNil : extra = [] := by
          apply Text.eq_nil_of_byteLength
          rw [hExtra, Text.byteLength_append] at hHead
          omega
        refine ⟨patch.text.toList ++ result, ?_⟩
        rw [hExtra, hNil, List.append_nil, List.append_assoc]
      · refine ⟨more ++ patch.text.toList ++ result, ?_⟩
        rw [hMore]
        simp only [List.append_assoc]

/- A text that can be read has offsets of 32 bits. -/
theorem Script.byteLength_of_readModule
    {source : String}
    {outline : Outline}
    (hRead : Script.readModule source = .ok outline) :
    Text.byteLength source.toList < UInt32.size := by
  by_contra hLong
  unfold Script.readModule Script.readProgram at hRead
  simp only [Script.readFrom, if_neg hLong] at hRead
  cases hRead

namespace Outline

variable {config : Config String}
variable {source root : String}
variable {outline : Outline}

theorem whole_stop
    (hShort : Text.byteLength source.toList < UInt32.size) :
    (outline.whole source).span.stop =
      Text.byteLength source.toList :=
  UInt32.toNat_ofNat_of_lt hShort

/- The text of a module is patched as a whole. -/
theorem patched_of_splicedTo
    (hShort : Text.byteLength source.toList < UInt32.size)
    (hSpliced :
      (outline.whole source).SplicedTo config source.toList []
        root) :
    ∃ patches : List (Patch String),
      (patches.map Patch.found).Perm
          (((outline.whole source).outermost []).map
            (placedPatch config source.toList)) ∧
        Patched 0 source.toList patches root.toList := by
  rcases hSpliced with
    ⟨patches, hPerm, before, inside, after, hSource, hStart,
      hStop, hPatched⟩
  have hBefore : before = [] :=
    Text.eq_nil_of_byteLength hStart
  have hAfter : after = [] := by
    apply Text.eq_nil_of_byteLength
    have hLength := congrArg Text.byteLength hSource
    rw [Text.byteLength_append, Text.byteLength_append]
      at hLength
    rw [whole_stop hShort] at hStop
    omega
  rw [hBefore, hAfter, List.append_nil, List.nil_append]
    at hSource
  refine ⟨patches, hPerm, ?_⟩
  rw [hSource]
  exact hPatched

/- A module without elements stays as it is. -/
theorem eq_source_of_splicedTo
    (hShort : Text.byteLength source.toList < UInt32.size)
    (hSpliced :
      (outline.whole source).SplicedTo config source.toList []
        root)
    (hNone : (outline.whole source).outermost [] = []) :
    root = source := by
  rcases patched_of_splicedTo hShort hSpliced with
    ⟨patches, hPerm, hPatched⟩
  rw [hNone] at hPerm
  have hPatches : patches = [] :=
    List.map_eq_nil_iff.mp hPerm.eq_nil
  rw [hPatches] at hPatched
  exact String.toList_inj.mp hPatched.eq_of_nil

/- The prologue of a module stays in front. -/
theorem prologue_of_splicedTo
    (hShort : Text.byteLength source.toList < UInt32.size)
    (hPlaced : outline.WellPlaced source)
    (hSpliced :
      (outline.whole source).SplicedTo config source.toList []
        root) :
    ∃ head rest tail : String,
      source = head ++ rest ∧
        root = head ++ tail ∧
        Text.byteLength head.toList = outline.prologueEnd := by
  rcases patched_of_splicedTo hShort hSpliced with
    ⟨patches, hPerm, hPatched⟩
  rcases hPlaced.prologue with ⟨head, rest, hSource, hLength⟩
  have hFront : ∃ tail, root.toList = head ++ tail := by
    apply hPatched.keeps_front hSource
    intro patch hPatch
    rcases exists_span_eq hPerm hPatch with
      ⟨placed, hMember, hSpan⟩
    rw [hSpan, hLength, Nat.zero_add]
    exact hPlaced.before placed hMember
  rcases hFront with ⟨tail, hRoot⟩
  refine
    ⟨String.ofList head, String.ofList rest,
      String.ofList tail, ?_, ?_, ?_⟩
  · apply String.toList_inj.mp
    rw [String.toList_append, String.toList_ofList,
      String.toList_ofList]
    exact hSource
  · apply String.toList_inj.mp
    rw [String.toList_append, String.toList_ofList,
      String.toList_ofList]
    exact hRoot
  · rw [String.toList_ofList]
    exact hLength

end Outline

/- An import is placed right after a prologue. -/
theorem placeImport_append
    (statement head tail : String)
    (hHead : Text.byteLength head.toList ≠ 0) :
    placeImport statement (head ++ tail)
        (Text.byteLength head.toList) =
      head ++ "\n" ++ statement ++ tail := by
  unfold placeImport
  rw [if_neg hHead, String.toList_append,
    Text.splitBytes_append]
  simp only [String.ofList_toList]

/-
  Lowering keeps all text outside elements and adds the import
  once.  The module is its source text with the outermost
  elements replaced by what they become, and the import comes
  first or right after the prologue.  All code embedded in
  elements is its own text, with the outermost elements in it
  replaced likewise.
-/
theorem transform_keeps_text
    (config : Config String)
    (file source : String)
    (outline : Outline)
    (output : Output)
    (hRead : Script.readModule source = .ok outline)
    (hPlaced : outline.WellPlaced source)
    (hRun : transform config file source = .ok output) :
    ∃ root,
      (outline.whole source).SplicedTo config source.toList []
          root ∧
        ((outline.whole source).outermost [] = [] →
          root = source) ∧
        (outline.prologueEnd = 0 →
          output.code =
            Emission.importStatement config ++ "\n" ++ root) ∧
        (outline.prologueEnd ≠ 0 →
          ∃ head rest tail : String,
            source = head ++ rest ∧
              root = head ++ tail ∧
              Text.byteLength head.toList =
                outline.prologueEnd ∧
              output.code =
                head ++ "\n" ++ Emission.importStatement config
                  ++ tail) ∧
        ∀ placed ∈ (outline.whole source).embedded [],
          ∃ id token,
            (outline.plant source).spanOf id = placed.2.span ∧
              (outline.plant source).meaning Host.text config
                  id =
                .ok token ∧
              placed.2.emitted config source.toList placed.1 =
                .ok token ∧
              placed.2.SplicedTo config source.toList placed.1
                token := by
  have hShort := Script.byteLength_of_readModule hRead
  rcases outline.plant_meaning config source with
    ⟨hMeaning, hHasCode⟩
  rcases
      Tree.lowerAll_progress
        (outline.plant_wellFormed source)
        (outline.plant_rootIsCode source) Host.text config with
    ⟨root, hLowered, hRoot, hAll⟩ | ⟨id, error, _, hLowered⟩
  · simp only [transform, hRead, Outline.lower, hLowered]
      at hRun
    cases hRun
    rw [hMeaning] at hRoot
    have hSpliced :
        (outline.whole source).SplicedTo config source.toList []
          root :=
      Code.splicedTo_of_emitted
        (hPlaced.codes ([], outline.whole source)
          List.mem_cons_self)
        hRoot
    refine ⟨root, hSpliced, ?_, ?_, ?_, ?_⟩
    · exact Outline.eq_source_of_splicedTo hShort hSpliced
    · intro hNone
      simp only [placeImport, hNone, if_true]
    · intro hPrologue
      rcases
          Outline.prologue_of_splicedTo hShort hPlaced
            hSpliced with
        ⟨head, rest, tail, hSource, hFront, hLength⟩
      refine ⟨head, rest, tail, hSource, hFront, hLength, ?_⟩
      rw [hFront, ← hLength]
      apply placeImport_append
      rw [hLength]
      exact hPrologue
    · intro placed hMember
      rcases hHasCode placed hMember with
        ⟨id, parent, parts, hNode, hSame⟩
      rcases hAll id _ hNode rfl with ⟨token, hToken⟩
      have hEmitted := hSame.symm.trans hToken
      exact
        ⟨id, token, Tree.spanOf_eq hNode, hToken, hEmitted,
          Code.splicedTo_of_emitted
            (hPlaced.codes placed hMember) hEmitted⟩
  · simp only [transform, hRead, Outline.lower, hLowered]
      at hRun
    cases hRun

/-
  A directive, a character of two bytes, and an element in the
  code of a child.
-/
def strictSource : String :=
  "'use strict';\nconst é = () => <p>\x7bg(<i/>)\x7d</p>;"

theorem transform_keeps_text_strict :
    ∃ outline root,
      Script.readModule strictSource = .ok outline ∧
        outline.WellPlaced strictSource ∧
        transform ⟨"rt", "T", "T", false, true, none, none⟩
            "a.jsx" strictSource =
          .ok
            ⟨"'use strict';\nimport \x7b T \x7d from \"rt\";\n"
              ++ "const é = () => new T([\"<p>\", \"</p>\"], "
              ++ "[g(new T([\"<i />\"], []))]);", 2⟩ ∧
        (outline.whole strictSource).SplicedTo
          ⟨"rt", "T", "T", false, true, none, none⟩
          strictSource.toList [] root ∧
        ∃ head rest : String,
          strictSource = head ++ rest ∧
            Text.byteLength head.toList = 13 := by
  have hRun :
      transform ⟨"rt", "T", "T", false, true, none, none⟩
          "a.jsx" strictSource =
        .ok
          ⟨"'use strict';\nimport \x7b T \x7d from \"rt\";\n"
            ++ "const é = () => new T([\"<p>\", \"</p>\"], "
            ++ "[g(new T([\"<i />\"], []))]);", 2⟩ := by
    decide +kernel
  have hFacts :
      (Script.readModule strictSource).toOption.any
          (fun outline =>
            decide
              (outline.WellPlaced strictSource ∧
                outline.prologueEnd = 13)) =
        true := by
    decide +kernel
  cases hRead : Script.readModule strictSource with
  | error error =>
      rw [hRead] at hFacts
      cases hFacts
  | ok outline =>
      rw [hRead] at hFacts
      rcases of_decide_eq_true hFacts with
        ⟨hPlaced, hPrologue⟩
      rcases
          transform_keeps_text _ "a.jsx" strictSource outline _
            hRead hPlaced hRun with
        ⟨root, hSpliced, _, _, hImport, _⟩
      rw [hPrologue] at hImport
      rcases hImport (Nat.succ_ne_zero 12) with
        ⟨head, rest, _, hSource, _, hLength, _⟩
      exact
        ⟨outline, root, rfl, hPlaced, hRun, hSpliced, head,
          rest, hSource, hLength⟩

end MarkupLowering
