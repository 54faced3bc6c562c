import MarkupLowering.Proofs.Outline.Splicing

/-
  This file shows that code is cut at its holes without loss.
  The holes may come in any order.  The parts of the code refer
  to each hole once, in the order in which the holes stand in
  the source text, no part is empty, and with the source text of
  the holes put back they are the text of the code.

  Key definitions include:
    * `HolesPlaced`
    * `HolesFrom`
    * `restoreParts`

  Key theorems include:
    * `HolesPlaced.sortHoles_ordered`
    * `HolesPlaced.holesFrom`
    * `HolesFrom.no_empty_token`
    * `HolesFrom.restoreParts_eq`
    * `cutCode_restores_source`
-/

namespace MarkupLowering

------------------------------------------------------------
-- Holes
------------------------------------------------------------

/-
  Holes that stand apart from each other inside a span of the
  source text, between characters.  A hole takes up some text.
-/
structure HolesPlaced
    (source : List Char)
    (span : Span)
    (holes : List Hole) : Prop where
  ordered : span.start ≤ span.stop
  bounds : span.Inside source span
  inside :
    ∀ hole ∈ holes,
      hole.span.Inside source span ∧
        hole.span.start < hole.span.stop
  apart :
    holes.Pairwise fun first second =>
      first.span.Apart second.span

instance
    (source : List Char)
    (span : Span)
    (holes : List Hole) :
    Decidable (HolesPlaced source span holes) :=
  decidable_of_iff
    (span.start ≤ span.stop ∧
      span.Inside source span ∧
      (∀ hole ∈ holes,
        hole.span.Inside source span ∧
          hole.span.start < hole.span.stop) ∧
      holes.Pairwise fun first second =>
        first.span.Apart second.span)
    ⟨fun ⟨hOrdered, hBounds, hInside, hApart⟩ =>
      ⟨hOrdered, hBounds, hInside, hApart⟩,
    fun hPlaced =>
      ⟨hPlaced.ordered, hPlaced.bounds, hPlaced.inside,
        hPlaced.apart⟩⟩

/-
  Holes that follow each other from an offset up to an end.
  This is what holds each time a hole has been cut out.
-/
inductive HolesFrom
    (source : List Char)
    (stop : Nat) : Nat → List Hole → Prop
  | nil
      {cursor : Nat}
      (hCursor : Text.IsBoundary source cursor)
      (hStop : Text.IsBoundary source stop)
      (hLe : cursor ≤ stop) :
      HolesFrom source stop cursor []
  | cons
      {cursor : Nat}
      {hole : Hole}
      {holes : List Hole}
      (hCursor : Text.IsBoundary source cursor)
      (hStart : Text.IsBoundary source hole.span.start)
      (hLe : cursor ≤ hole.span.start)
      (hProper : hole.span.start < hole.span.stop)
      (hRest : HolesFrom source stop hole.span.stop holes) :
      HolesFrom source stop cursor (hole :: holes)

namespace HolesFrom

variable {source : List Char} {stop cursor : Nat}
variable {holes : List Hole}

theorem cursor_isBoundary
    (hHoles : HolesFrom source stop cursor holes) :
    Text.IsBoundary source cursor := by
  cases hHoles with
  | nil hCursor => exact hCursor
  | cons hCursor => exact hCursor

theorem stop_isBoundary
    (hHoles : HolesFrom source stop cursor holes) :
    Text.IsBoundary source stop := by
  induction hHoles with
  | nil _ hStop => exact hStop
  | cons _ _ _ _ _ ih => exact ih

theorem cursor_le_stop
    (hHoles : HolesFrom source stop cursor holes) :
    cursor ≤ stop := by
  induction hHoles with
  | nil _ _ hLe => exact hLe
  | cons _ _ hLe hProper _ ih => omega

end HolesFrom

/- Ordered holes inside a span follow each other. -/
theorem holesFrom_of_pairwise
    {source : List Char}
    {stop cursor : Nat}
    {holes : List Hole}
    (hCursor : Text.IsBoundary source cursor)
    (hStop : Text.IsBoundary source stop)
    (hLe : cursor ≤ stop)
    (hInside :
      ∀ hole ∈ holes,
        hole.span.Within source cursor stop ∧
          hole.span.start < hole.span.stop)
    (hOrder :
      holes.Pairwise fun first second =>
        first.span.stop ≤ second.span.start) :
    HolesFrom source stop cursor holes := by
  induction holes generalizing cursor with
  | nil => exact HolesFrom.nil hCursor hStop hLe
  | cons hole holes ih =>
      rcases List.forall_mem_cons.mp hInside with
        ⟨⟨hFirst, hProper⟩, hOthers⟩
      rcases List.pairwise_cons.mp hOrder with
        ⟨hLater, hOrder⟩
      refine HolesFrom.cons hCursor hFirst.start hFirst.lower
        hProper ?_
      apply ih hFirst.stop hFirst.upper
      · intro other hOther
        have hBounds := hOthers other hOther
        exact
          ⟨hBounds.1.narrow (hLater other hOther), hBounds.2⟩
      · exact hOrder

namespace HolesPlaced

variable {source : List Char} {span : Span} {holes : List Hole}

/- Holes that stand apart follow each other once sorted. -/
theorem sortHoles_ordered
    (hPlaced : HolesPlaced source span holes) :
    (sortHoles holes).Pairwise fun first second =>
      first.span.stop ≤ second.span.start := by
  -- What is written in a hole has no part in the order.
  let tokenOf : NodeId → Except LowerError String :=
    fun _ => .ok ""
  have hProper :
      ∀ hole ∈ holes, hole.span.start < hole.span.stop :=
    fun hole hMem => (hPlaced.inside hole hMem).2
  have hOrdered :=
    insertionSort_ordered (holes.map (Hole.patch tokenOf))
      (List.pairwise_map.mpr hPlaced.apart)
      (List.forall_mem_map.mpr hProper)
  rw [← sortHoles_map] at hOrdered
  exact List.pairwise_map.mp hOrdered

/- Sorted holes follow each other from the start of the span. -/
theorem holesFrom
    (hPlaced : HolesPlaced source span holes) :
    HolesFrom source span.stop span.start (sortHoles holes) := by
  apply holesFrom_of_pairwise hPlaced.bounds.start
    hPlaced.bounds.stop hPlaced.ordered
  · intro hole hMem
    have hInside :=
      hPlaced.inside hole
        ((sortHoles_perm holes).mem_iff.mp hMem)
    exact ⟨hInside.1.within, hInside.2⟩
  · exact hPlaced.sortHoles_ordered

end HolesPlaced

------------------------------------------------------------
-- Parts
------------------------------------------------------------

/-
  The text of the parts of code, with the source text of the
  holes in the places of the nodes, one after the other.
-/
def restoreParts
    (source : List Char) :
    List (CodePart String) → List Hole → List Char
  | [], _ => []
  | .token text :: parts, holes =>
      text.toList ++ restoreParts source parts holes
  | .node _ :: parts, [] => restoreParts source parts []
  | .node _ :: parts, hole :: holes =>
      hole.span.charsOf source ++
        restoreParts source parts holes

/- The text between two holes is kept, if there is any. -/
theorem restoreParts_gap
    (source : List Char)
    (start stop : Nat)
    (parts : List (CodePart String))
    (holes : List Hole) :
    restoreParts source
        (if start < stop then
          .token
              (String.ofList (Text.clip source start stop)) ::
            parts
        else
          parts)
        holes =
      Text.clip source start stop ++
        restoreParts source parts holes := by
  by_cases hLt : start < stop
  · rw [if_pos hLt, restoreParts, String.toList_ofList]
  · rw [if_neg hLt,
      Text.clip_eq_nil (Nat.le_of_not_lt hLt),
      List.nil_append]

/- There is a token between two holes only for some text. -/
theorem no_empty_token_gap
    {source : List Char}
    {start stop : Nat}
    {parts : List (CodePart String)}
    (hStart : Text.IsBoundary source start)
    (hStop : Text.IsBoundary source stop)
    (hParts : .token "" ∉ parts) :
    .token "" ∉
      (if start < stop then
        .token
            (String.ofList (Text.clip source start stop)) ::
          parts
      else
        parts) := by
  by_cases hLt : start < stop
  · rw [if_pos hLt]
    intro hMem
    rcases List.mem_cons.mp hMem with hEq | hMem
    · have hEmpty := CodePart.token.inj hEq
      apply Text.clip_ne_nil hStart hStop hLt
      rw [← String.toList_ofList
        (l := Text.clip source start stop), ← hEmpty]
      rfl
    · exact hParts hMem
  · rw [if_neg hLt]
    exact hParts

namespace HolesFrom

variable {source : List Char} {stop cursor : Nat}
variable {holes : List Hole}

theorem no_empty_token
    (hHoles : HolesFrom source stop cursor holes) :
    .token "" ∉ cutFrom source stop cursor holes := by
  induction hHoles with
  | nil hCursor hStop _ =>
      rw [cutFrom]
      exact no_empty_token_gap hCursor hStop List.not_mem_nil
  | cons hCursor hStart _ _ _ ih =>
      rw [cutFrom]
      apply no_empty_token_gap hCursor hStart
      intro hMem
      rcases List.mem_cons.mp hMem with hEq | hMem
      · cases hEq
      · exact ih hMem

/- With the holes put back, the text is the one up to the end. -/
theorem restoreParts_eq
    (hHoles : HolesFrom source stop cursor holes) :
    restoreParts source (cutFrom source stop cursor holes)
        holes =
      Text.clip source cursor stop := by
  induction hHoles with
  | nil =>
      rw [cutFrom, restoreParts_gap, restoreParts,
        List.append_nil]
  | @cons cursor hole holes hCursor hStart hLe hProper hRest ih =>
      have hNext := hRest.cursor_isBoundary
      have hStop := hRest.stop_isBoundary
      have hUpper := hRest.cursor_le_stop
      have hGap :=
        Text.clip_cut hCursor hStart hStop hLe (by omega)
      have hHole :=
        Text.clip_cut hStart hNext hStop
          (Nat.le_of_lt hProper) hUpper
      rw [cutFrom, restoreParts_gap, restoreParts, ih, hGap,
        hHole, Span.charsOf]

end HolesFrom

------------------------------------------------------------
-- Code
------------------------------------------------------------

/-
  Code that is cut at its holes refers to each of them once,
  in the order of their places.  No token is empty, and with
  the text of each hole in the place of its node the parts are
  the text of the code.
-/
theorem cutCode_restores_source
    {source : String}
    {span : Span}
    {holes : List Hole}
    (hPlaced : HolesPlaced source.toList span holes) :
    ∃ ordered : List Hole,
      ordered.Perm holes ∧
        (ordered.Pairwise fun first second =>
          first.span.stop ≤ second.span.start) ∧
        (cutCode source.toList span holes).flatMap
            CodePart.targets =
          ordered.map Hole.node ∧
        .token "" ∉ cutCode source.toList span holes ∧
        String.ofList
            (restoreParts source.toList
              (cutCode source.toList span holes) ordered) =
          span.textOf source := by
  have hHoles := hPlaced.holesFrom
  refine ⟨sortHoles holes, sortHoles_perm holes, ?_, ?_, ?_, ?_⟩
  · exact hPlaced.sortHoles_ordered
  · exact cutFrom_targets source.toList span.stop span.start
      (sortHoles holes)
  · exact hHoles.no_empty_token
  · exact congrArg String.ofList hHoles.restoreParts_eq

/-
  Holes at both ends of the code, two of them side by side,
  and a character of two bytes between the others.
-/
def tightSource : String :=
  "let é = <a/><b/>ü<c/>;"

def tightHoles : List Hole :=
  [⟨⟨19, 23⟩, 8⟩, ⟨⟨9, 13⟩, 2⟩, ⟨⟨13, 17⟩, 5⟩]

theorem cutCode_restores_source_tight :
    HolesPlaced tightSource.toList ⟨9, 23⟩ tightHoles ∧
      cutCode tightSource.toList ⟨9, 23⟩ tightHoles =
        [.node 2, .node 5, .token "ü", .node 8] ∧
      ∃ ordered : List Hole,
        ordered.Perm tightHoles ∧
          [2, 5, 8] = ordered.map Hole.node ∧
          String.ofList
              (restoreParts tightSource.toList
                [.node 2, .node 5, .token "ü", .node 8]
                ordered) =
            Span.textOf ⟨9, 23⟩ tightSource := by
  have hPlaced :
      HolesPlaced tightSource.toList ⟨9, 23⟩ tightHoles := by
    decide +kernel
  have hParts :
      cutCode tightSource.toList ⟨9, 23⟩ tightHoles =
        [.node 2, .node 5, .token "ü", .node 8] := by
    decide +kernel
  rcases cutCode_restores_source hPlaced with
    ⟨ordered, hPerm, _, hNodes, _, hText⟩
  rw [hParts] at hNodes hText
  exact ⟨hPlaced, hParts, ordered, hPerm, hNodes, hText⟩

end MarkupLowering
