import MarkupLowering.Program.Naming
import MarkupLowering.Proofs.Outline.Scoping

/-
  This file says what the tables by which declarations are
  named have to tell, and that recording a construct makes
  them tell it.

  An entry is made just before the value it is for.  Since no
  two declarations begin at the same offset, it is there for
  that value alone.

  Key definitions include:
    * `boundName`
    * `isMethodPlace`
    * `Construct.declarationIn`
    * `Names.Tells`
    * `Names.Keeps`
    * `Names.Fresh`
    * `Names.Ready`

  Key theorems include:
    * `Names.Tells.declaration?_eq`
    * `Names.record_keeps`
    * `Names.Fresh.record`
-/

namespace MarkupLowering

------------------------------------------------------------
-- What Layers Say
------------------------------------------------------------

/- The variable whose value stands directly inside layers. -/
def boundName : List (Layer Construct) → Option String
  | .group (.binding target) :: _ => target
  | _ => none

/- A function that stands directly inside layers is a method. -/
def isMethodPlace : List (Layer Construct) → Bool
  | .group .method :: _ => true
  | .group (.property isMethod kind) :: _ =>
      isMethod || kind != .plain
  | _ => false

/- The scope that a construct makes inside layers. -/
def Construct.declarationIn
    (source : List Char)
    (layers : List (Layer Construct))
    (head : Construct) : Option Declaration :=
  head.declaration? source (boundName layers)
    (isMethodPlace layers)

------------------------------------------------------------
-- Starts
------------------------------------------------------------

theorem startsOf_append
    (first second : List Construct) :
    startsOf (first ++ second) =
      startsOf first ++ startsOf second :=
  List.filterMap_append

theorem mem_startsOf
    {heads : List Construct}
    {head : Construct}
    {start : Nat}
    (hHead : head ∈ heads)
    (hStart : head.start? = some start) :
    start ∈ startsOf heads :=
  List.mem_filterMap.mpr ⟨head, hHead, hStart⟩

theorem startsOf_subset
    {first second : List Construct}
    (hSubset : first ⊆ second) :
    startsOf first ⊆ startsOf second := by
  intro start hStart
  rcases List.mem_filterMap.mp hStart with
    ⟨head, hHead, hOwn⟩
  exact mem_startsOf (hSubset hHead) hOwn

namespace Construct

theorem start?_of_nameless
    {head : Construct}
    {start : Nat}
    (hStart : head.namelessStart? = some start) :
    head.start? = some start := by
  unfold namelessStart? at hStart
  split at hStart
  · exact hStart
  · exact hStart
  · exact hStart
  · cases hStart

theorem start?_of_function
    {head : Construct}
    {start : Nat}
    (hStart : head.functionStart? = some start) :
    head.start? = some start := by
  unfold functionStart? at hStart
  split at hStart
  · exact hStart
  · cases hStart

end Construct

------------------------------------------------------------
-- Inner and Outer Heads
------------------------------------------------------------

section Heads

variable {H : Type}

/- The heads inside a piece, without its own one. -/
def Piece.innerHeads : Piece H → List H
  | .group _ body => headsIn body
  | .markup element => element.heads

theorem Piece.heads_eq
    (piece : Piece H) :
    piece.heads = piece.head?.toList ++ piece.innerHeads := by
  cases piece with
  | group head body => rfl
  | markup element => rfl

theorem outerHeads_cons
    (piece : Piece H)
    (pieces : List (Piece H)) :
    outerHeads (piece :: pieces) =
      piece.head?.toList ++ outerHeads pieces := by
  cases piece with
  | group head body => rfl
  | markup element => rfl

theorem heads_sublist
    {piece : Piece H}
    {pieces : List (Piece H)}
    (hPiece : piece ∈ pieces) :
    piece.heads.Sublist (headsIn pieces) := by
  induction pieces with
  | nil => cases hPiece
  | cons other pieces ih =>
      rw [headsIn]
      rcases List.mem_cons.mp hPiece with rfl | hRest
      · exact List.sublist_append_left _ _
      · exact
          (ih hRest).trans (List.sublist_append_right _ _)

theorem innerHeads_sublist
    {piece : Piece H}
    {pieces : List (Piece H)}
    (hPiece : piece ∈ pieces) :
    piece.innerHeads.Sublist (headsIn pieces) := by
  have hHeads := heads_sublist hPiece
  rw [Piece.heads_eq] at hHeads
  exact (List.sublist_append_right _ _).trans hHeads

/- Heads are the own ones of pieces or inside them. -/
theorem headsIn_perm
    (pieces : List (Piece H)) :
    (headsIn pieces).Perm
      (outerHeads pieces
        ++ pieces.flatMap Piece.innerHeads) := by
  induction pieces with
  | nil => exact List.Perm.refl []
  | cons piece pieces ih =>
      rw [headsIn, Piece.heads_eq, outerHeads_cons,
        List.flatMap_cons, List.append_assoc,
        List.append_assoc]
      apply List.Perm.append_left
      exact
        (ih.append_left piece.innerHeads).trans
          (List.perm_append_comm_assoc _ _ _)

theorem outerHeads_subset
    (pieces : List (Piece H)) :
    outerHeads pieces ⊆ headsIn pieces := by
  intro head hHead
  exact
    (headsIn_perm pieces).mem_iff.mpr
      (List.mem_append_left _ hHead)

theorem mem_outerHeads
    {piece : Piece H}
    {pieces : List (Piece H)}
    {head : H}
    (hPiece : piece ∈ pieces)
    (hHead : piece.head? = some head) :
    head ∈ outerHeads pieces :=
  List.mem_filterMap.mpr ⟨piece, hPiece, hHead⟩

end Heads

/- A declaration inside pieces begins where none of them does. -/
theorem not_mem_outer_of_mem_inner
    {piece : Piece Construct}
    {pieces : List (Piece Construct)}
    {start : Nat}
    (hApart : (startsOf (headsIn pieces)).Nodup)
    (hPiece : piece ∈ pieces)
    (hStart : start ∈ startsOf piece.innerHeads) :
    start ∉ startsOf (outerHeads pieces) := by
  have hPerm := (headsIn_perm pieces).filterMap Construct.start?
  have hSplit := hPerm.nodup hApart
  rw [List.filterMap_append] at hSplit
  intro hOuter
  apply hSplit.disjoint hOuter
  apply startsOf_subset ?_ hStart
  intro head hHead
  exact List.mem_flatMap.mpr ⟨piece, hPiece, hHead⟩

------------------------------------------------------------
-- Tables
------------------------------------------------------------

namespace Names

/- The tables say the same of an offset. -/
def Agree
    (first second : Names)
    (start : Nat) : Prop :=
  first.nameAt? start = second.nameAt? start ∧
    (start ∈ first.methods ↔ start ∈ second.methods)

/- The tables say nothing of an offset. -/
def Silent
    (names : Names)
    (start : Nat) : Prop :=
  names.nameAt? start = none ∧ start ∉ names.methods

/-
  The tables tell of a construct what the layers around it
  say.
-/
structure Tells
    (names : Names)
    (layers : List (Layer Construct))
    (head : Construct) : Prop where
  name :
    ∀ start,
      head.namelessStart? = some start →
        names.nameAt? start = boundName layers
  method :
    ∀ start,
      head.functionStart? = some start →
        (start ∈ names.methods ↔ isMethodPlace layers = true)

/- Entries are changed for some declarations only. -/
def Keeps
    (before after : Names)
    (heads : List Construct) : Prop :=
  ∀ start, start ∉ startsOf heads → after.Agree before start

/-
  Nothing is known of some declarations, and no two of them
  begin at the same offset.
-/
structure Fresh
    (names : Names)
    (heads : List Construct) : Prop where
  silent : ∀ start ∈ startsOf heads, names.Silent start
  apart : (startsOf heads).Nodup

/-
  The tables tell what the layers around a piece say of its
  own head, and nothing of what is inside it.
-/
structure Ready
    (names : Names)
    (layers : List (Layer Construct))
    (piece : Piece Construct) : Prop where
  tells :
    ∀ head, piece.head? = some head → names.Tells layers head
  fresh : names.Fresh piece.innerHeads

variable {names before middle after : Names}
variable {layers : List (Layer Construct)}
variable {heads first second values : List Construct}
variable {piece : Piece Construct}
variable {pieces body : List (Piece Construct)}
variable {head : Construct}
variable {start : Nat}

theorem Agree.silent
    (hAgree : after.Agree before start)
    (hSilent : before.Silent start) :
    after.Silent start :=
  ⟨hAgree.1.trans hSilent.1, fun hMethod =>
    hSilent.2 (hAgree.2.mp hMethod)⟩

theorem Tells.of_agree
    (hTells : before.Tells layers head)
    (hAgree :
      ∀ start, head.start? = some start →
        after.Agree before start) :
    after.Tells layers head where
  name start hStart := by
    have hSame := hAgree start (head.start?_of_nameless hStart)
    exact hSame.1.trans (hTells.name start hStart)
  method start hStart := by
    have hSame := hAgree start (head.start?_of_function hStart)
    exact hSame.2.trans (hTells.method start hStart)

/- Silent tables tell what layers say that say nothing. -/
theorem Tells.of_silent
    (hName : boundName layers = none)
    (hMethod : isMethodPlace layers = false)
    (hSilent :
      ∀ start, head.start? = some start →
        names.Silent start) :
    names.Tells layers head where
  name start hStart := by
    rw [hName]
    exact (hSilent start (head.start?_of_nameless hStart)).1
  method start hStart := by
    have hOwn := hSilent start (head.start?_of_function hStart)
    rw [hMethod]
    exact iff_of_false hOwn.2 Bool.false_ne_true

/- A construct is read as the layers around it say. -/
theorem Tells.declaration?_eq
    (hTells : names.Tells layers head)
    (source : List Char) :
    names.declaration? source head =
      head.declarationIn source layers := by
  unfold Names.declaration? Construct.declarationIn
  cases head with
  | arrow span =>
      have hName := hTells.name span.start rfl
      simp only [Construct.declaration?, Construct.start?,
        Option.bind_some, hName]
  | function span name? =>
      have hMethod := hTells.method span.start rfl
      have hPlace :
          names.methods.contains span.start =
            isMethodPlace layers :=
        Bool.eq_iff_iff.mpr
          (List.contains_iff_mem.trans hMethod)
      cases name? with
      | some name =>
          simp only [Construct.declaration?, Construct.start?,
            Option.any_some, hPlace, Option.some_or]
      | none =>
          have hName := hTells.name span.start rfl
          simp only [Construct.declaration?, Construct.start?,
            Option.any_some, hPlace, Option.bind_some, hName]
  | ofClass span name? superclass interfaces =>
      cases name? with
      | some name =>
          simp only [Construct.declaration?, Option.some_or]
      | none =>
          have hName := hTells.name span.start rfl
          simp only [Construct.declaration?, Construct.start?,
            Option.bind_some, hName]
  | binding target => rfl
  | method => rfl
  | property isMethod kind => rfl
  | expression => rfl

------------------------------------------------------------
-- What a Step Changes
------------------------------------------------------------

theorem Keeps.refl
    (names : Names)
    (heads : List Construct) :
    names.Keeps names heads :=
  fun _ _ => ⟨rfl, Iff.rfl⟩

theorem Keeps.mono
    (hKeeps : before.Keeps after first)
    (hSubset : first ⊆ second) :
    before.Keeps after second := by
  intro start hStart
  exact hKeeps start fun hFirst =>
    hStart (startsOf_subset hSubset hFirst)

theorem Keeps.trans
    (hFirst : before.Keeps middle first)
    (hSecond : middle.Keeps after second) :
    before.Keeps after (first ++ second) := by
  intro start hStart
  rw [startsOf_append, List.mem_append, not_or] at hStart
  have hLeft := hFirst start hStart.1
  have hRight := hSecond start hStart.2
  exact
    ⟨hRight.1.trans hLeft.1, hRight.2.trans hLeft.2⟩

/- A name that is given to offsets is found at these alone. -/
theorem lookup_given
    (starts : List Nat)
    (name : String)
    (start : Nat) :
    (starts.map (·, name)).lookup start =
      if start ∈ starts then some name else none := by
  induction starts with
  | nil => rfl
  | cons other starts ih =>
      rw [List.map_cons, List.lookup_cons, ih]
      by_cases hOther : start = other
      · simp [hOther]
      · simp [hOther, beq_eq_false_iff_ne.mpr hOther]

/- The name of a variable is found at its values. -/
theorem nameAt?_bind
    {name : String}
    (hStart :
      start ∈ values.filterMap Construct.namelessStart?) :
    (names.bind name values).nameAt? start = some name := by
  unfold nameAt? bind
  rw [List.lookup_append, lookup_given, if_pos hStart,
    Option.some_or]

theorem bind_keeps
    (names : Names)
    (name : String)
    (values : List Construct) :
    names.Keeps (names.bind name values) values := by
  intro start hStart
  refine ⟨?_, Iff.rfl⟩
  have hOther :
      start ∉ values.filterMap Construct.namelessStart? := by
    intro hMem
    rcases List.mem_filterMap.mp hMem with
      ⟨head, hHead, hOwn⟩
    exact
      hStart
        (mem_startsOf hHead (head.start?_of_nameless hOwn))
  unfold nameAt? bind
  rw [List.lookup_append, lookup_given, if_neg hOther,
    Option.none_or]

theorem mark_keeps
    (names : Names)
    (values : List Construct) :
    names.Keeps (names.mark values) values := by
  intro start hStart
  refine ⟨rfl, ?_⟩
  have hOther :
      start ∉ values.filterMap Construct.functionStart? := by
    intro hMem
    rcases List.mem_filterMap.mp hMem with
      ⟨head, hHead, hOwn⟩
    exact
      hStart
        (mem_startsOf hHead (head.start?_of_function hOwn))
  unfold mark
  rw [List.mem_append]
  exact or_iff_right hOther

theorem record_keeps
    (names : Names)
    (head : Construct)
    (values : List Construct) :
    names.Keeps (names.record head values) values := by
  unfold record
  split
  · exact bind_keeps names _ values
  · exact mark_keeps names values
  · split
    · exact mark_keeps names values
    · exact Keeps.refl names values
  · exact Keeps.refl names values

------------------------------------------------------------
-- Fresh Declarations
------------------------------------------------------------

/- What the first declarations change is not of the others. -/
theorem Fresh.right
    (hFresh : before.Fresh (first ++ second))
    (hKeeps : before.Keeps after first) :
    after.Fresh second := by
  have hApart := hFresh.apart
  rw [startsOf_append] at hApart
  refine ⟨?_, hApart.of_append_right⟩
  intro start hStart
  have hOther : start ∉ startsOf first := fun hFirst =>
    hApart.disjoint hFirst hStart
  apply (hKeeps start hOther).silent
  apply hFresh.silent
  rw [startsOf_append]
  exact List.mem_append_right _ hStart

theorem Fresh.sublist
    (hFresh : names.Fresh second)
    (hSublist : first.Sublist second) :
    names.Fresh first where
  silent start hStart :=
    hFresh.silent start
      (startsOf_subset hSublist.subset hStart)
  apart := hFresh.apart.sublist (hSublist.filterMap _)

/- Nothing is known of the own heads of fresh pieces. -/
theorem Fresh.silent_of_outer
    (hFresh : names.Fresh (headsIn pieces))
    (hHead : head ∈ outerHeads pieces)
    (start : Nat)
    (hStart : head.start? = some start) :
    names.Silent start :=
  hFresh.silent start
    (mem_startsOf (outerHeads_subset pieces hHead) hStart)

/- Layers that say nothing leave fresh pieces unknown. -/
theorem Fresh.ready
    (hFresh : names.Fresh (headsIn pieces))
    (hPiece : piece ∈ pieces)
    (hName : boundName layers = none)
    (hMethod : isMethodPlace layers = false) :
    names.Ready layers piece where
  tells _ hHead :=
    Tells.of_silent hName hMethod
      (hFresh.silent_of_outer (mem_outerHeads hPiece hHead))
  fresh := hFresh.sublist (innerHeads_sublist hPiece)

------------------------------------------------------------
-- Recording
------------------------------------------------------------

/- The value of a variable gets its name. -/
theorem Tells.bind
    {name : String}
    (hHead : head ∈ values)
    (hName : boundName layers = some name)
    (hMethod : isMethodPlace layers = false)
    (hSilent :
      ∀ start, head.start? = some start →
        names.Silent start) :
    (names.bind name values).Tells layers head where
  name start hStart := by
    rw [hName]
    exact
      nameAt?_bind
        (List.mem_filterMap.mpr ⟨head, hHead, hStart⟩)
  method start hStart := by
    have hOwn := hSilent start (head.start?_of_function hStart)
    rw [hMethod]
    exact iff_of_false hOwn.2 Bool.false_ne_true

/- A function that was marked is known as a method. -/
theorem Tells.mark
    (hHead : head ∈ values)
    (hName : boundName layers = none)
    (hMethod : isMethodPlace layers = true)
    (hSilent :
      ∀ start, head.start? = some start →
        names.Silent start) :
    (names.mark values).Tells layers head where
  name start hStart := by
    rw [hName]
    exact (hSilent start (head.start?_of_nameless hStart)).1
  method start hStart := by
    refine iff_of_true ?_ hMethod
    exact
      List.mem_append_left _
        (List.mem_filterMap.mpr ⟨head, hHead, hStart⟩)

/- What was recorded is what the construct says of its values. -/
theorem tells_record
    (hHead : head ∈ outerHeads body)
    (hFresh : names.Fresh (headsIn body))
    (holder : Construct)
    (layers : List (Layer Construct)) :
    (names.record holder (outerHeads body)).Tells
      (.group holder :: layers) head := by
  have hSilent := hFresh.silent_of_outer hHead
  cases holder with
  | binding target =>
      cases target with
      | none => exact Tells.of_silent rfl rfl hSilent
      | some name => exact Tells.bind hHead rfl rfl hSilent
  | method => exact Tells.mark hHead rfl rfl hSilent
  | property isMethod kind =>
      by_cases hMethod : (isMethod || kind != .plain) = true
      · rw [record, if_pos hMethod]
        exact Tells.mark hHead rfl hMethod hSilent
      · rw [record, if_neg hMethod]
        exact
          Tells.of_silent rfl
            (Bool.eq_false_iff.mpr hMethod) hSilent
  | arrow span => exact Tells.of_silent rfl rfl hSilent
  | function span name? =>
      exact Tells.of_silent rfl rfl hSilent
  | ofClass span name? superclass interfaces =>
      exact Tells.of_silent rfl rfl hSilent
  | expression => exact Tells.of_silent rfl rfl hSilent

/- After a construct is recorded, its pieces can be read. -/
theorem Fresh.record
    (hFresh : names.Fresh (headsIn body))
    (hPiece : piece ∈ body)
    (holder : Construct)
    (layers : List (Layer Construct)) :
    (names.record holder (outerHeads body)).Ready
      (.group holder :: layers) piece where
  tells _ hHead :=
    tells_record (mem_outerHeads hPiece hHead) hFresh holder
      layers
  fresh := by
    have hInner := hFresh.sublist (innerHeads_sublist hPiece)
    refine ⟨?_, hInner.apart⟩
    intro start hStart
    have hOther :=
      not_mem_outer_of_mem_inner hFresh.apart hPiece hStart
    have hAgree :=
      record_keeps names holder (outerHeads body) start hOther
    exact hAgree.silent (hInner.silent start hStart)

/- Entries for other declarations do not matter to a piece. -/
theorem Ready.of_agree
    (hReady : before.Ready layers piece)
    (hAgree :
      ∀ start ∈ startsOf piece.heads,
        after.Agree before start) :
    after.Ready layers piece := by
  rw [Piece.heads_eq, startsOf_append] at hAgree
  constructor
  · intro head hHead
    apply (hReady.tells head hHead).of_agree
    intro start hStart
    apply hAgree
    apply List.mem_append_left
    rw [hHead]
    exact mem_startsOf (List.mem_singleton.mpr rfl) hStart
  · refine ⟨?_, hReady.fresh.apart⟩
    intro start hStart
    exact
      (hAgree start (List.mem_append_right _ hStart)).silent
        (hReady.fresh.silent start hStart)

end Names

end MarkupLowering
