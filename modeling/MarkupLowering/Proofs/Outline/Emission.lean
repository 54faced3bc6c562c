import MarkupLowering.Outline.Plant
import MarkupLowering.Proofs.Tree.Meaning
import Mathlib.Data.List.Sort

/-
  This file defines what an outline is lowered to, by
  recursion on the outline itself and without an arena.

  An element is lowered with the texts of what its attributes
  and children hold.  Code is its own text, with each element
  that stands directly in it replaced by what it is lowered
  to.  Both depend on the declarations around them.

  Key definitions include:
    * `Surroundings`
    * `Patch`
    * `spliceFrom`
    * `Markup.emitted`
    * `Code.emitted`
    * `outermostIn`
    * `placedPatch`
    * `embeddedIn`

  Key theorems include:
    * `patchesIn_eq`
    * `found_of_spliceFrom`
-/

namespace MarkupLowering

------------------------------------------------------------
-- Patches
------------------------------------------------------------

/-
  What stands around a place, innermost first.  Only
  declarations carry a value.
-/
abbrev Surroundings :=
  List (Option Enclosure)

/- What stands around the body of a declaration. -/
def Declaration.enter
    (head : Declaration)
    (around : Surroundings) : Surroundings :=
  some head.enclosure :: around

/- A place in code and what is written there. -/
structure Patch (α : Type) where
  span : Span
  text : α
deriving DecidableEq, Repr

/- The patch does not begin after the other one. -/
def Patch.Precedes
    {α : Type}
    (first second : Patch α) : Prop :=
  first.span.start ≤ second.span.start

instance
    {α : Type} :
    DecidableRel (@Patch.Precedes α) :=
  fun first second =>
    inferInstanceAs
      (Decidable (first.span.start ≤ second.span.start))

/- The text of code from an offset on, with ordered patches. -/
def spliceFrom
    (source : List Char)
    (stop : Nat) :
    (cursor : Nat) →
    List (Patch (Except LowerError String)) →
      Except LowerError String
  | cursor, [] =>
      .ok (String.ofList (Text.clip source cursor stop))
  | cursor, patch :: patches => do
      let text ← patch.text
      let others ←
        spliceFrom source stop patch.span.stop patches
      return String.ofList
          (Text.clip source cursor patch.span.start)
        ++ text ++ others

/- The text of code with patches. -/
def splice
    (source : List Char)
    (span : Span)
    (patches : List (Patch (Except LowerError String))) :
    Except LowerError String :=
  spliceFrom source span.stop span.start
    (patches.insertionSort Patch.Precedes)

------------------------------------------------------------
-- Emission
------------------------------------------------------------

/- All results, or the first error. -/
def sequence
    {α : Type}
    (results : List (Except LowerError α)) :
    Except LowerError (List α) :=
  results.mapM id

mutual

/- The elements directly in pieces, and what they become. -/
def patchesIn
    (config : Config String)
    (source : List Char)
    (around : Surroundings) :
    List (Piece Declaration) →
      List (Patch (Except LowerError String))
  | [] => []
  | piece :: pieces =>
      piece.patches config source around
        ++ patchesIn config source around pieces

def Piece.patches
    (config : Config String)
    (source : List Char)
    (around : Surroundings) :
    Piece Declaration →
      List (Patch (Except LowerError String))
  | .group head body =>
      patchesIn config source (head.enter around) body
  | .markup element =>
      [⟨element.span, element.emitted config source around⟩]

/- What an element becomes. -/
def Markup.emitted
    (config : Config String)
    (source : List Char)
    (around : Surroundings) :
    Markup Declaration → Except LowerError String
  | .mk span tag attributes content => do
      let attributes ←
        sequence
          (attributesEmitted config source (none :: around)
            attributes)
      let children ←
        sequence
          (contentEmitted config source (none :: around)
            content)
      let lowered ←
        Element.lower config
          ⟨tag, attributes, children, content.isSome, span⟩
          (Scope.resolve around)
      return Emission.lowered lowered

def attributesEmitted
    (config : Config String)
    (source : List Char)
    (around : Surroundings) :
    List (MarkupAttribute Declaration) →
      List (Except LowerError (Attribute String))
  | [] => []
  | attr :: rest =>
      attr.emitted config source around
        :: attributesEmitted config source around rest

/- An attribute with the text of what it holds. -/
def MarkupAttribute.emitted
    (config : Config String)
    (source : List Char)
    (around : Surroundings) :
    MarkupAttribute Declaration →
      Except LowerError (Attribute String)
  | .absent name span => .ok (.named ⟨name, .absent, span⟩)
  | .text name value span =>
      .ok (.named ⟨name, .text value, span⟩)
  | .empty name span => .ok (.named ⟨name, .empty, span⟩)
  | .code name value span =>
      (value.emitted config source around).map fun token =>
        .named ⟨name, .expression token, span⟩
  | .markup name value span =>
      (value.emitted config source around).map fun token =>
        .named ⟨name, .element token, span⟩
  | .spread argument span =>
      (argument.emitted config source around).map fun token =>
        .spread token span

def contentEmitted
    (config : Config String)
    (source : List Char)
    (around : Surroundings) :
    Option (List (MarkupChild Declaration)) →
      List (Except LowerError (Child String))
  | none => []
  | some children =>
      childrenEmitted config source around children

def childrenEmitted
    (config : Config String)
    (source : List Char)
    (around : Surroundings) :
    List (MarkupChild Declaration) →
      List (Except LowerError (Child String))
  | [] => []
  | child :: rest =>
      (child.emitted config source around).toList
        ++ childrenEmitted config source around rest

/- A child with the text of what it holds, if it is one. -/
def MarkupChild.emitted
    (config : Config String)
    (source : List Char)
    (around : Surroundings) :
    MarkupChild Declaration →
      Option (Except LowerError (Child String))
  | .text value span => some (.ok (.text value span))
  | .code value span =>
      some
        ((value.emitted config source around).map fun token =>
          .expression token span)
  | .empty _ => none
  | .markup element =>
      some
        ((element.emitted config source around).map fun token =>
          .lowered token element.span)
  | .spread span => some (.ok (.other spreadChildKind span))

/- What code becomes. -/
def Code.emitted
    (config : Config String)
    (source : List Char)
    (around : Surroundings) :
    Code Declaration → Except LowerError String
  | .mk span pieces =>
      splice source span
        (patchesIn config source (none :: around) pieces)

end

------------------------------------------------------------
-- Outermost Elements
------------------------------------------------------------

mutual

/- The elements directly in pieces, with what is around them. -/
def outermostIn
    (around : Surroundings) :
    List (Piece Declaration) →
      List (Surroundings × Markup Declaration)
  | [] => []
  | piece :: pieces =>
      piece.outermost around ++ outermostIn around pieces

def Piece.outermost
    (around : Surroundings) :
    Piece Declaration → List (Surroundings × Markup Declaration)
  | .group head body =>
      outermostIn (head.enter around) body
  | .markup element => [(around, element)]

end

namespace Code

/- The place of code. -/
def span : Code Declaration → Span
  | mk span _ => span

/- The elements directly in code, with what is around them. -/
def outermost
    (around : Surroundings) :
    Code Declaration → List (Surroundings × Markup Declaration)
  | mk _ pieces => outermostIn (none :: around) pieces

end Code

/- A placed element and what it becomes. -/
def placedPatch
    (config : Config String)
    (source : List Char)
    (placed : Surroundings × Markup Declaration) :
    Patch (Except LowerError String) :=
  ⟨placed.2.span, placed.2.emitted config source placed.1⟩

mutual

/- Pieces are patched where their outermost elements stand. -/
theorem patchesIn_eq
    (config : Config String)
    (source : List Char)
    (around : Surroundings)
    (pieces : List (Piece Declaration)) :
    patchesIn config source around pieces =
      (outermostIn around pieces).map
        (placedPatch config source) := by
  match pieces with
  | [] => rfl
  | piece :: pieces =>
      rw [patchesIn, outermostIn, List.map_append,
        Piece.patches_eq config source around piece,
        patchesIn_eq config source around pieces]

theorem Piece.patches_eq
    (config : Config String)
    (source : List Char)
    (around : Surroundings)
    (piece : Piece Declaration) :
    piece.patches config source around =
      (piece.outermost around).map
        (placedPatch config source) := by
  match piece with
  | .group head body =>
      rw [Piece.patches, Piece.outermost]
      exact patchesIn_eq config source (head.enter around) body
  | .markup element =>
      rw [Piece.patches, Piece.outermost]
      rfl

end

------------------------------------------------------------
-- Embedded Code
------------------------------------------------------------

mutual

/-
  All code embedded in pieces, at any depth, with what is
  around it.
-/
def embeddedIn
    (around : Surroundings) :
    List (Piece Declaration) →
      List (Surroundings × Code Declaration)
  | [] => []
  | piece :: pieces =>
      piece.embedded around ++ embeddedIn around pieces

def Piece.embedded
    (around : Surroundings) :
    Piece Declaration → List (Surroundings × Code Declaration)
  | .group head body =>
      embeddedIn (head.enter around) body
  | .markup element => element.embedded around

def Markup.embedded
    (around : Surroundings) :
    Markup Declaration → List (Surroundings × Code Declaration)
  | .mk _ _ attributes content =>
      attributesEmbedded (none :: around) attributes
        ++ contentEmbedded (none :: around) content

def attributesEmbedded
    (around : Surroundings) :
    List (MarkupAttribute Declaration) →
      List (Surroundings × Code Declaration)
  | [] => []
  | attr :: rest =>
      attr.embedded around ++ attributesEmbedded around rest

def MarkupAttribute.embedded
    (around : Surroundings) :
    MarkupAttribute Declaration → List (Surroundings × Code Declaration)
  | .absent _ _ => []
  | .text _ _ _ => []
  | .empty _ _ => []
  | .code _ value _ => value.embedded around
  | .markup _ value _ => value.embedded around
  | .spread argument _ => argument.embedded around

def contentEmbedded
    (around : Surroundings) :
    Option (List (MarkupChild Declaration)) →
      List (Surroundings × Code Declaration)
  | none => []
  | some children => childrenEmbedded around children

def childrenEmbedded
    (around : Surroundings) :
    List (MarkupChild Declaration) →
      List (Surroundings × Code Declaration)
  | [] => []
  | child :: rest =>
      child.embedded around ++ childrenEmbedded around rest

def MarkupChild.embedded
    (around : Surroundings) :
    MarkupChild Declaration → List (Surroundings × Code Declaration)
  | .text _ _ => []
  | .code value _ => value.embedded around
  | .empty _ => []
  | .markup element => element.embedded around
  | .spread _ => []

/- Code and all code embedded in it. -/
def Code.embedded
    (around : Surroundings) :
    Code Declaration → List (Surroundings × Code Declaration)
  | .mk span pieces =>
      (around, .mk span pieces)
        :: embeddedIn (none :: around) pieces

end

------------------------------------------------------------
-- Known Texts
------------------------------------------------------------

/- A patch whose text is known. -/
def Patch.found
    (patch : Patch String) : Patch (Except LowerError String) :=
  ⟨patch.span, .ok patch.text⟩

/- The texts of all patches are known where code is spliced. -/
theorem found_of_spliceFrom
    {source : List Char}
    {stop cursor : Nat}
    {patches : List (Patch (Except LowerError String))}
    {text : String}
    (hText : spliceFrom source stop cursor patches = .ok text) :
    ∃ given : List (Patch String),
      patches = given.map Patch.found := by
  induction patches generalizing cursor text with
  | nil => exact ⟨[], rfl⟩
  | cons patch patches ih =>
      rw [spliceFrom] at hText
      rcases exists_of_bind_eq_ok hText with
        ⟨own, hOwn, hTail⟩
      rcases exists_of_bind_eq_ok hTail with
        ⟨others, hOthers, _⟩
      rcases ih hOthers with ⟨given, hGiven⟩
      refine ⟨⟨patch.span, own⟩ :: given, ?_⟩
      rw [List.map_cons, ← hGiven, Patch.found, ← hOwn]

end MarkupLowering
