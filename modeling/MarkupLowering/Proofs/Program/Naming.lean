import MarkupLowering.Proofs.Program.Tables

/-
  This file shows that the declarations of a module are named
  as the constructs around them say.

  On the way through a module, the entries of the tables are
  changed for the declarations that were passed and no others.
  So the elements of the outline are those that were read, and
  what stands around them is what the layers around them say.

  Key definitions include:
    * `scopesAround`
    * `NamedAs`

  Key theorems include:
    * `namePieces_keeps`
    * `namePieces_elements`
    * `Program.outline_elements`
-/

namespace MarkupLowering

------------------------------------------------------------
-- What Naming Changes
------------------------------------------------------------

section Keeping

variable (source : List Char)

mutual

/- Only what was passed has new entries. -/
theorem namePieces_keeps
    (pieces : List (Piece Construct))
    (names : Names) :
    names.Keeps (namePieces source pieces names).2
      (headsIn pieces) := by
  match pieces with
  | [] => exact Names.Keeps.refl names []
  | piece :: pieces =>
      exact
        (namePiece_keeps piece names).trans
          (namePieces_keeps pieces _)

theorem namePiece_keeps
    (piece : Piece Construct)
    (names : Names) :
    names.Keeps (namePiece source piece names).2
      piece.heads := by
  match piece with
  | .group head body =>
      have hRecord :=
        names.record_keeps head (outerHeads body)
      have hBody :=
        namePieces_keeps body
          (names.record head (outerHeads body))
      have hBoth :
          names.Keeps
            (namePieces source body
              (names.record head (outerHeads body))).2
            (head :: headsIn body) := by
        apply (hRecord.trans hBody).mono
        intro other hOther
        apply List.mem_cons_of_mem
        rcases List.mem_append.mp hOther with hOuter | hInner
        · exact outerHeads_subset body hOuter
        · exact hInner
      simp only [namePiece, Piece.heads]
      cases names.declaration? source head with
      | none => exact hBoth
      | some declaration => exact hBoth
  | .markup element => exact nameMarkup_keeps element names

theorem nameMarkup_keeps
    (element : Markup Construct)
    (names : Names) :
    names.Keeps (nameMarkup source element names).2
      element.heads := by
  match element with
  | .mk span tag attributes content =>
      exact
        (nameAttributes_keeps attributes names).trans
          (nameContent_keeps content _)

theorem nameAttributes_keeps
    (attributes : List (MarkupAttribute Construct))
    (names : Names) :
    names.Keeps (nameAttributes source attributes names).2
      (attributesHeads attributes) := by
  match attributes with
  | [] => exact Names.Keeps.refl names []
  | attr :: rest =>
      exact
        (nameAttribute_keeps attr names).trans
          (nameAttributes_keeps rest _)

theorem nameAttribute_keeps
    (attr : MarkupAttribute Construct)
    (names : Names) :
    names.Keeps (nameAttribute source attr names).2
      attr.heads := by
  match attr with
  | .absent name span => exact Names.Keeps.refl names []
  | .text name value span => exact Names.Keeps.refl names []
  | .empty name span => exact Names.Keeps.refl names []
  | .code name value span => exact nameCode_keeps value names
  | .markup name value span =>
      exact nameMarkup_keeps value names
  | .spread argument span =>
      exact nameCode_keeps argument names

theorem nameContent_keeps
    (content : Option (List (MarkupChild Construct)))
    (names : Names) :
    names.Keeps (nameContent source content names).2
      (contentHeads content) := by
  match content with
  | none => exact Names.Keeps.refl names []
  | some children => exact nameChildren_keeps children names

theorem nameChildren_keeps
    (children : List (MarkupChild Construct))
    (names : Names) :
    names.Keeps (nameChildren source children names).2
      (childrenHeads children) := by
  match children with
  | [] => exact Names.Keeps.refl names []
  | child :: rest =>
      exact
        (nameChild_keeps child names).trans
          (nameChildren_keeps rest _)

theorem nameChild_keeps
    (child : MarkupChild Construct)
    (names : Names) :
    names.Keeps (nameChild source child names).2
      child.heads := by
  match child with
  | .text value span => exact Names.Keeps.refl names []
  | .empty span => exact Names.Keeps.refl names []
  | .spread span => exact Names.Keeps.refl names []
  | .code value span => exact nameCode_keeps value names
  | .markup element => exact nameMarkup_keeps element names

theorem nameCode_keeps
    (code : Code Construct)
    (names : Names) :
    names.Keeps (nameCode source code names).2 code.heads := by
  match code with
  | .mk span pieces => exact namePieces_keeps pieces names

end

end Keeping

------------------------------------------------------------
-- Named Elements
------------------------------------------------------------

/- What stands around a place inside layers. -/
def scopesAround
    (source : List Char) :
    List (Layer Construct) → Surroundings
  | [] => []
  | .group head :: layers =>
      match head.declarationIn source layers with
      | none => scopesAround source layers
      | some declaration =>
          declaration.enter (scopesAround source layers)
  | .markup :: layers => none :: scopesAround source layers
  | .code :: layers => none :: scopesAround source layers

/-
  An element of an outline is one that was read, and what
  stands around it is what the layers around the latter say.
-/
structure NamedAs
    (source : List Char)
    (read : Placed Construct)
    (named : Placed Declaration) : Prop where
  span : named.2.span = read.2.span
  tag : named.2.tag = read.2.tag
  around :
    surroundingsOf named.1 = scopesAround source read.1

theorem elementsIn_append
    {H : Type}
    (layers : List (Layer H))
    (first second : List (Piece H)) :
    elementsIn layers (first ++ second) =
      elementsIn layers first
        ++ elementsIn layers second := by
  induction first with
  | nil => rfl
  | cons piece first ih =>
      rw [List.cons_append, elementsIn, elementsIn, ih,
        List.append_assoc]

section Elements

variable (source : List Char)

mutual

/- The elements in pieces keep their order and surroundings. -/
theorem namePieces_elements
    {names : Names}
    {layers : List (Layer Construct)}
    {around : List (Layer Declaration)}
    (pieces : List (Piece Construct))
    (hReady : ∀ piece ∈ pieces, names.Ready layers piece)
    (hApart : (startsOf (headsIn pieces)).Nodup)
    (hAround :
      surroundingsOf around = scopesAround source layers) :
    List.Forall₂ (NamedAs source) (elementsIn layers pieces)
      (elementsIn around
        (namePieces source pieces names).1) := by
  match pieces with
  | [] => exact List.Forall₂.nil
  | piece :: pieces =>
      rw [headsIn, startsOf_append] at hApart
      have hFirst :=
        namePiece_elements piece
          (hReady piece List.mem_cons_self) hAround
      have hLater :
          ∀ other ∈ pieces,
            (namePiece source piece names).2.Ready layers
              other := by
        intro other hOther
        apply
          (hReady other
            (List.mem_cons_of_mem piece hOther)).of_agree
        intro start hStart
        apply namePiece_keeps source piece names
        intro hPassed
        apply hApart.disjoint hPassed
        exact
          startsOf_subset (heads_sublist hOther).subset hStart
      have hRest :=
        namePieces_elements pieces hLater
          hApart.of_append_right hAround
      rw [namePieces, elementsIn, elementsIn_append]
      exact List.rel_append hFirst hRest

theorem namePiece_elements
    {names : Names}
    {layers : List (Layer Construct)}
    {around : List (Layer Declaration)}
    (piece : Piece Construct)
    (hReady : names.Ready layers piece)
    (hAround :
      surroundingsOf around = scopesAround source layers) :
    List.Forall₂ (NamedAs source) (piece.elements layers)
      (elementsIn around
        (namePiece source piece names).1) := by
  match piece with
  | .group head body =>
      have hRead :=
        (hReady.tells head rfl).declaration?_eq source
      have hBody :
          ∀ piece ∈ body,
            (names.record head (outerHeads body)).Ready
              (.group head :: layers) piece := by
        intro piece hPiece
        exact hReady.fresh.record hPiece head layers
      rw [Piece.elements]
      cases hDeclared : head.declarationIn source layers with
      | none =>
          have hScopes :
              surroundingsOf around =
                scopesAround source
                  (.group head :: layers) := by
            rw [scopesAround, hDeclared]
            exact hAround
          simp only [namePiece, hRead, hDeclared]
          exact
            namePieces_elements body hBody hReady.fresh.apart
              hScopes
      | some declaration =>
          have hScopes :
              surroundingsOf (.group declaration :: around) =
                scopesAround source
                  (.group head :: layers) := by
            rw [scopesAround, hDeclared, surroundingsOf,
              hAround]
          simp only [namePiece, hRead, hDeclared]
          rw [elementsIn, elementsIn, List.append_nil,
            Piece.elements]
          exact
            namePieces_elements body hBody hReady.fresh.apart
              hScopes
  | .markup element =>
      simp only [namePiece]
      rw [Piece.elements, elementsIn, elementsIn,
        List.append_nil, Piece.elements]
      exact nameMarkup_elements element hReady.fresh hAround

/- An element comes before what it holds. -/
theorem nameMarkup_elements
    {names : Names}
    {layers : List (Layer Construct)}
    {around : List (Layer Declaration)}
    (element : Markup Construct)
    (hFresh : names.Fresh element.heads)
    (hAround :
      surroundingsOf around = scopesAround source layers) :
    List.Forall₂ (NamedAs source) (element.elements layers)
      ((nameMarkup source element names).1.elements
        around) := by
  match element with
  | .mk span tag attributes content =>
      rw [Markup.heads] at hFresh
      have hBelow :
          surroundingsOf (.markup :: around) =
            scopesAround source (.markup :: layers) := by
        rw [surroundingsOf, scopesAround, hAround]
      have hAttributes :=
        nameAttributes_elements attributes
          (hFresh.sublist (List.sublist_append_left _ _))
          hBelow
      have hContent :=
        nameContent_elements content
          (hFresh.right
            (nameAttributes_keeps source attributes names))
          hBelow
      simp only [nameMarkup]
      rw [Markup.elements, Markup.elements]
      exact
        List.Forall₂.cons ⟨rfl, rfl, hAround⟩
          (List.rel_append hAttributes hContent)

theorem nameAttributes_elements
    {names : Names}
    {layers : List (Layer Construct)}
    {around : List (Layer Declaration)}
    (attributes : List (MarkupAttribute Construct))
    (hFresh : names.Fresh (attributesHeads attributes))
    (hAround :
      surroundingsOf around = scopesAround source layers) :
    List.Forall₂ (NamedAs source)
      (attributesElements layers attributes)
      (attributesElements around
        (nameAttributes source attributes names).1) := by
  match attributes with
  | [] => exact List.Forall₂.nil
  | attr :: rest =>
      rw [attributesHeads] at hFresh
      have hFirst :=
        nameAttribute_elements attr
          (hFresh.sublist (List.sublist_append_left _ _))
          hAround
      have hRest :=
        nameAttributes_elements rest
          (hFresh.right (nameAttribute_keeps source attr names))
          hAround
      exact List.rel_append hFirst hRest

theorem nameAttribute_elements
    {names : Names}
    {layers : List (Layer Construct)}
    {around : List (Layer Declaration)}
    (attr : MarkupAttribute Construct)
    (hFresh : names.Fresh attr.heads)
    (hAround :
      surroundingsOf around = scopesAround source layers) :
    List.Forall₂ (NamedAs source) (attr.elements layers)
      ((nameAttribute source attr names).1.elements
        around) := by
  match attr with
  | .absent name span => exact List.Forall₂.nil
  | .text name value span => exact List.Forall₂.nil
  | .empty name span => exact List.Forall₂.nil
  | .code name value span =>
      exact nameCode_elements value hFresh hAround
  | .markup name value span =>
      exact nameMarkup_elements value hFresh hAround
  | .spread argument span =>
      exact nameCode_elements argument hFresh hAround

theorem nameContent_elements
    {names : Names}
    {layers : List (Layer Construct)}
    {around : List (Layer Declaration)}
    (content : Option (List (MarkupChild Construct)))
    (hFresh : names.Fresh (contentHeads content))
    (hAround :
      surroundingsOf around = scopesAround source layers) :
    List.Forall₂ (NamedAs source)
      (contentElements layers content)
      (contentElements around
        (nameContent source content names).1) := by
  match content with
  | none => exact List.Forall₂.nil
  | some children =>
      exact nameChildren_elements children hFresh hAround

theorem nameChildren_elements
    {names : Names}
    {layers : List (Layer Construct)}
    {around : List (Layer Declaration)}
    (children : List (MarkupChild Construct))
    (hFresh : names.Fresh (childrenHeads children))
    (hAround :
      surroundingsOf around = scopesAround source layers) :
    List.Forall₂ (NamedAs source)
      (childrenElements layers children)
      (childrenElements around
        (nameChildren source children names).1) := by
  match children with
  | [] => exact List.Forall₂.nil
  | child :: rest =>
      rw [childrenHeads] at hFresh
      have hFirst :=
        nameChild_elements child
          (hFresh.sublist (List.sublist_append_left _ _))
          hAround
      have hRest :=
        nameChildren_elements rest
          (hFresh.right (nameChild_keeps source child names))
          hAround
      exact List.rel_append hFirst hRest

theorem nameChild_elements
    {names : Names}
    {layers : List (Layer Construct)}
    {around : List (Layer Declaration)}
    (child : MarkupChild Construct)
    (hFresh : names.Fresh child.heads)
    (hAround :
      surroundingsOf around = scopesAround source layers) :
    List.Forall₂ (NamedAs source) (child.elements layers)
      ((nameChild source child names).1.elements around) := by
  match child with
  | .text value span => exact List.Forall₂.nil
  | .empty span => exact List.Forall₂.nil
  | .spread span => exact List.Forall₂.nil
  | .code value span =>
      exact nameCode_elements value hFresh hAround
  | .markup element =>
      exact nameMarkup_elements element hFresh hAround

/- Code gives no name to what stands directly in it. -/
theorem nameCode_elements
    {names : Names}
    {layers : List (Layer Construct)}
    {around : List (Layer Declaration)}
    (code : Code Construct)
    (hFresh : names.Fresh code.heads)
    (hAround :
      surroundingsOf around = scopesAround source layers) :
    List.Forall₂ (NamedAs source) (code.elements layers)
      ((nameCode source code names).1.elements around) := by
  match code with
  | .mk span pieces =>
      have hBelow :
          surroundingsOf (.code :: around) =
            scopesAround source (.code :: layers) := by
        rw [surroundingsOf, scopesAround, hAround]
      exact
        namePieces_elements pieces
          (fun _ hPiece => hFresh.ready hPiece rfl rfl)
          hFresh.apart hBelow

end

end Elements

------------------------------------------------------------
-- Modules
------------------------------------------------------------

namespace Program

/- All elements of a module, with the layers around them. -/
def elements (program : Program) : List (Placed Construct) :=
  elementsIn [.code] program.pieces

end Program

end MarkupLowering
