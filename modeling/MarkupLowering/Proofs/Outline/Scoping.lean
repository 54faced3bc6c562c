import MarkupLowering.Proofs.Outline.Adequacy
import MarkupLowering.Proofs.Tree.Ancestry

/-
  This file says in which scope each element of a module is
  lowered, in terms of the outline alone.

  An element stands inside layers: declarations, elements and
  embedded expressions.  Its scope is what is found among
  them, from the innermost one on.

  Key definitions include:
    * `Layer`
    * `elementsIn`
    * `Tree.Displays`
    * `Tree.LoweredIn`

  Key theorems include:
    * `plantPieces_displays`
    * `plantMarkup_displays`
    * `Outline.plant_displays`
    * `Outline.lowers_elements`
-/

namespace MarkupLowering

------------------------------------------------------------
-- Layers
------------------------------------------------------------

/- What can stand around an element. -/
inductive Layer (H : Type) where
  | group (head : H)
  | markup
  | code
deriving DecidableEq, Repr

section Elements

variable {H : Type}

/- An element, with the layers around it, innermost first. -/
abbrev Placed (H : Type) :=
  List (Layer H) × Markup H

mutual

/-
  All elements in pieces, in order of their beginnings, with
  the layers around them.
-/
def elementsIn
    (layers : List (Layer H)) :
    List (Piece H) → List (Placed H)
  | [] => []
  | piece :: pieces =>
      piece.elements layers ++ elementsIn layers pieces

def Piece.elements
    (layers : List (Layer H)) : Piece H → List (Placed H)
  | .group head body => elementsIn (.group head :: layers) body
  | .markup element => element.elements layers

def Markup.elements
    (layers : List (Layer H)) : Markup H → List (Placed H)
  | .mk span tag attributes content =>
      (layers, .mk span tag attributes content) ::
        (attributesElements (.markup :: layers) attributes
          ++ contentElements (.markup :: layers) content)

def attributesElements
    (layers : List (Layer H)) :
    List (MarkupAttribute H) → List (Placed H)
  | [] => []
  | attr :: rest =>
      attr.elements layers ++ attributesElements layers rest

def MarkupAttribute.elements
    (layers : List (Layer H)) :
    MarkupAttribute H → List (Placed H)
  | .absent _ _ => []
  | .text _ _ _ => []
  | .empty _ _ => []
  | .code _ value _ => value.elements layers
  | .markup _ value _ => value.elements layers
  | .spread argument _ => argument.elements layers

def contentElements
    (layers : List (Layer H)) :
    Option (List (MarkupChild H)) → List (Placed H)
  | none => []
  | some children => childrenElements layers children

def childrenElements
    (layers : List (Layer H)) :
    List (MarkupChild H) → List (Placed H)
  | [] => []
  | child :: rest =>
      child.elements layers ++ childrenElements layers rest

def MarkupChild.elements
    (layers : List (Layer H)) :
    MarkupChild H → List (Placed H)
  | .text _ _ => []
  | .code value _ => value.elements layers
  | .empty _ => []
  | .markup element => element.elements layers
  | .spread _ => []

def Code.elements
    (layers : List (Layer H)) : Code H → List (Placed H)
  | .mk _ pieces => elementsIn (.code :: layers) pieces

end

end Elements

/- All elements of a module, with the layers around them. -/
def Outline.elements
    (outline : Outline) : List (Placed Declaration) :=
  elementsIn [.code] outline.pieces

/- What stands around a place inside layers. -/
def surroundingsOf : List (Layer Declaration) → Surroundings
  | [] => []
  | .group head :: layers => head.enter (surroundingsOf layers)
  | .markup :: layers => none :: surroundingsOf layers
  | .code :: layers => none :: surroundingsOf layers

------------------------------------------------------------
-- Elements by Number
------------------------------------------------------------

namespace Tree

variable {T : Type}

/- The node of a number is an element. -/
def isElementAt
    (tree : Tree T)
    (id : NodeId) : Bool :=
  (tree.get? id).any fun node => node.kind.isElement

/- The elements from a number on and below another one. -/
def elementIds
    (tree : Tree T)
    (start stop : NodeId) : List NodeId :=
  (List.range' start (stop - start)).filter tree.isElementAt

theorem elementIds_self
    (tree : Tree T)
    (id : NodeId) :
    tree.elementIds id id = [] := by
  simp [elementIds]

theorem elementIds_append
    (tree : Tree T)
    {start middle stop : Nat}
    (hFirst : start ≤ middle)
    (hSecond : middle ≤ stop) :
    tree.elementIds start stop =
      tree.elementIds start middle
        ++ tree.elementIds middle stop := by
  rcases Nat.exists_eq_add_of_le hFirst with ⟨first, hMiddle⟩
  rcases Nat.exists_eq_add_of_le hSecond with ⟨second, hStop⟩
  have hWhole : stop - start = first + second := by omega
  have hLeft : middle - start = first := by omega
  have hRight : stop - middle = second := by omega
  unfold elementIds
  rw [← List.filter_append, hWhole, hLeft, hRight, hMiddle,
    List.range'_append_1]

theorem elementIds_next
    {tree : Tree T}
    {id : NodeId}
    {node : Node T}
    (hNode : tree.get? id = some node) :
    tree.elementIds id (id + 1) =
      if node.kind.isElement then [id] else [] := by
  unfold elementIds
  rw [Nat.add_sub_cancel_left, List.range'_one,
    List.filter_singleton, isElementAt, hNode,
    Option.any_some, Bool.cond_eq_ite]

/-
  The node of an element has its place and its tag, and the
  parent links lead through the layers around it.
-/
def Shows
    (tree : Tree T)
    (id : NodeId)
    (placed : Placed Declaration) : Prop :=
  ∃ parent content,
    tree.get? id =
        some ⟨some parent, placed.2.span, .element content⟩ ∧
      content.tag = placed.2.tag ∧
      tree.Surrounds parent (surroundingsOf placed.1)

/- The elements between two numbers are those of a list. -/
def Displays
    (tree : Tree T)
    (start stop : NodeId)
    (elements : List (Placed Declaration)) : Prop :=
  List.Forall₂ tree.Shows (tree.elementIds start stop) elements

namespace Displays

variable {tree : Tree T}
variable {start middle stop : NodeId}
variable {first second : List (Placed Declaration)}

theorem nothing
    (tree : Tree T)
    (id : NodeId) :
    tree.Displays id id [] := by
  unfold Displays
  rw [elementIds_self]
  exact List.Forall₂.nil

theorem append
    (hFirst : tree.Displays start middle first)
    (hSecond : tree.Displays middle stop second)
    (hStart : start ≤ middle)
    (hStop : middle ≤ stop) :
    tree.Displays start stop (first ++ second) := by
  unfold Displays
  rw [elementIds_append tree hStart hStop]
  exact List.rel_append hFirst hSecond

/- A node that is no element is not displayed. -/
theorem pass
    {node : Node T}
    (hNode : tree.get? start = some node)
    (hKind : node.kind.isElement = false)
    (hRest : tree.Displays (start + 1) stop first)
    (hStop : start < stop) :
    tree.Displays start stop first := by
  unfold Displays
  rw [elementIds_append tree (Nat.le_succ start) hStop,
    elementIds_next hNode, hKind]
  exact hRest

theorem element
    {placed : Placed Declaration}
    (hPlaced : tree.Shows start placed)
    (hRest : tree.Displays (start + 1) stop first)
    (hStop : start < stop) :
    tree.Displays start stop (placed :: first) := by
  rcases hPlaced with ⟨parent, content, hNode, hRefers⟩
  unfold Displays
  rw [elementIds_append tree (Nat.le_succ start) hStop,
    elementIds_next hNode]
  exact
    List.Forall₂.cons ⟨parent, content, hNode, hRefers⟩ hRest

end Displays

end Tree

------------------------------------------------------------
-- Planted Elements
------------------------------------------------------------

section Planted

variable {whole : Tree String}
variable (source : List Char)

mutual

/- The elements of planted pieces are displayed in order. -/
theorem plantPieces_displays
    {parent : NodeId}
    {layers : List (Layer Declaration)}
    (pieces : List (Piece Declaration))
    (tree : Tree String)
    (hParent : parent < tree.size)
    (hAround : whole.Surrounds parent (surroundingsOf layers))
    (hHolds :
      whole.Holds tree
        (plantPieces source parent pieces tree).2) :
    whole.Displays tree.size
      (plantPieces source parent pieces tree).2.size
      (elementsIn layers pieces) := by
  match pieces with
  | [] => exact Tree.Displays.nothing whole tree.size
  | piece :: pieces =>
      have hFirstGrown :=
        plantPiece_grown source parent piece tree hParent
      have hMiddle :=
        Nat.lt_of_lt_of_le hParent hFirstGrown.size_le
      have hRestGrown :=
        plantPieces_grown source parent pieces _ hMiddle
      have hFirst :=
        plantPiece_displays piece tree hAround
          (hHolds.first hRestGrown)
      have hRest :=
        plantPieces_displays pieces _ hMiddle hAround
          (hHolds.second hFirstGrown)
      rw [elementsIn]
      exact
        hFirst.append hRest hFirstGrown.size_le
          hRestGrown.size_le

theorem plantPiece_displays
    {parent : NodeId}
    {layers : List (Layer Declaration)}
    (piece : Piece Declaration)
    (tree : Tree String)
    (hAround : whole.Surrounds parent (surroundingsOf layers))
    (hHolds :
      whole.Holds tree
        (plantPiece source parent piece tree).2) :
    whole.Displays tree.size
      (plantPiece source parent piece tree).2.size
      (piece.elements layers) := by
  match piece with
  | .group head body =>
      have hSelf :=
        Tree.lt_size_push tree parent head.span
          (.scope head.enclosure)
      have hGrown :=
        plantPieces_grown source tree.size body _ hSelf
      rcases Tree.Holds.pushed hHolds hGrown with
        ⟨hNode, hInner⟩
      have hBelow :
          whole.Surrounds tree.size
            (surroundingsOf (.group head :: layers)) :=
        Tree.Surrounds.below hNode rfl hAround
      have hBody :=
        plantPieces_displays body _ hSelf hBelow hInner
      rw [Tree.size_push] at hBody
      rw [Piece.elements]
      exact
        hBody.pass hNode rfl
          (Nat.lt_of_lt_of_le hSelf hGrown.size_le)
  | .markup element =>
      exact plantMarkup_displays element tree hAround hHolds

/- A planted element is displayed before what it holds. -/
theorem plantMarkup_displays
    {parent : NodeId}
    {layers : List (Layer Declaration)}
    (element : Markup Declaration)
    (tree : Tree String)
    (hAround : whole.Surrounds parent (surroundingsOf layers))
    (hHolds :
      whole.Holds tree
        (plantMarkup source parent element tree).2) :
    whole.Displays tree.size
      (plantMarkup source parent element tree).2.size
      (element.elements layers) := by
  match element with
  | .mk span tag attributes content =>
      have hSelf :=
        Tree.lt_size_push tree parent span
          (.element ⟨tag, [], [], content.isSome⟩)
      have hAttributesGrown :=
        (plantAttributes_grown source tree.size attributes _
          hSelf).1
      have hMiddle :=
        Nat.lt_of_lt_of_le hSelf hAttributesGrown.size_le
      have hContentGrown :=
        (plantContent_grown source tree.size content _
          hMiddle).1
      have hGrown := hAttributesGrown.trans hContentGrown
      simp only [plantMarkup, Tree.addElement] at hHolds ⊢
      rw [show (tree.push parent span (.element
          ⟨tag, [], [], content.isSome⟩)).1 = tree.size from rfl,
        editElement_grown hGrown] at hHolds ⊢
      rcases Tree.Holds.filled hHolds hGrown with
        ⟨hNode, hInner⟩
      have hBelow :
          whole.Surrounds tree.size
            (surroundingsOf (.markup :: layers)) :=
        Tree.Surrounds.below hNode rfl hAround
      have hAttributes :=
        plantAttributes_displays attributes _ hSelf hBelow
          (hInner.first hContentGrown)
      have hContent :=
        plantContent_displays content _ hMiddle hBelow
          (hInner.second hAttributesGrown)
      have hInside :=
        hAttributes.append hContent hAttributesGrown.size_le
          hContentGrown.size_le
      rw [Tree.size_push] at hInside
      rw [Markup.elements, Tree.size_setKind]
      exact
        Tree.Displays.element
          ⟨parent, _, hNode, rfl, hAround⟩ hInside
          (Nat.lt_of_lt_of_le hSelf hGrown.size_le)

theorem plantAttributes_displays
    {parent : NodeId}
    {layers : List (Layer Declaration)}
    (attributes : List (MarkupAttribute Declaration))
    (tree : Tree String)
    (hParent : parent < tree.size)
    (hAround : whole.Surrounds parent (surroundingsOf layers))
    (hHolds :
      whole.Holds tree
        (plantAttributes source parent attributes tree).2) :
    whole.Displays tree.size
      (plantAttributes source parent attributes tree).2.size
      (attributesElements layers attributes) := by
  match attributes with
  | [] => exact Tree.Displays.nothing whole tree.size
  | attr :: rest =>
      have hFirstGrown :=
        (plantAttribute_grown source parent attr tree hParent).1
      have hMiddle :=
        Nat.lt_of_lt_of_le hParent hFirstGrown.size_le
      have hRestGrown :=
        (plantAttributes_grown source parent rest _ hMiddle).1
      have hFirst :=
        plantAttribute_displays attr tree hAround
          (hHolds.first hRestGrown)
      have hRest :=
        plantAttributes_displays rest _ hMiddle hAround
          (hHolds.second hFirstGrown)
      rw [attributesElements]
      exact
        hFirst.append hRest hFirstGrown.size_le
          hRestGrown.size_le

theorem plantAttribute_displays
    {parent : NodeId}
    {layers : List (Layer Declaration)}
    (attr : MarkupAttribute Declaration)
    (tree : Tree String)
    (hAround : whole.Surrounds parent (surroundingsOf layers))
    (hHolds :
      whole.Holds tree
        (plantAttribute source parent attr tree).2) :
    whole.Displays tree.size
      (plantAttribute source parent attr tree).2.size
      (attr.elements layers) := by
  match attr with
  | .absent name span =>
      exact Tree.Displays.nothing whole tree.size
  | .text name value span =>
      exact Tree.Displays.nothing whole tree.size
  | .empty name span =>
      exact Tree.Displays.nothing whole tree.size
  | .code name value span =>
      exact plantCode_displays value tree hAround hHolds
  | .markup name value span =>
      exact
        plantMarkup_displays value tree hAround hHolds
  | .spread argument span =>
      exact
        plantCode_displays argument tree hAround hHolds

theorem plantContent_displays
    {parent : NodeId}
    {layers : List (Layer Declaration)}
    (content : Option (List (MarkupChild Declaration)))
    (tree : Tree String)
    (hParent : parent < tree.size)
    (hAround : whole.Surrounds parent (surroundingsOf layers))
    (hHolds :
      whole.Holds tree
        (plantContent source parent content tree).2) :
    whole.Displays tree.size
      (plantContent source parent content tree).2.size
      (contentElements layers content) := by
  match content with
  | none => exact Tree.Displays.nothing whole tree.size
  | some children =>
      exact
        plantChildren_displays children tree hParent hAround
          hHolds

theorem plantChildren_displays
    {parent : NodeId}
    {layers : List (Layer Declaration)}
    (children : List (MarkupChild Declaration))
    (tree : Tree String)
    (hParent : parent < tree.size)
    (hAround : whole.Surrounds parent (surroundingsOf layers))
    (hHolds :
      whole.Holds tree
        (plantChildren source parent children tree).2) :
    whole.Displays tree.size
      (plantChildren source parent children tree).2.size
      (childrenElements layers children) := by
  match children with
  | [] => exact Tree.Displays.nothing whole tree.size
  | child :: rest =>
      have hFirstGrown :=
        plantChild_grown source parent child tree hParent
      have hMiddle :=
        Nat.lt_of_lt_of_le hParent hFirstGrown.size_le
      have hRestGrown :=
        plantChildren_grown source parent rest _ hMiddle
      have hFirst :=
        plantChild_displays child tree hAround
          (hHolds.first hRestGrown)
      have hRest :=
        plantChildren_displays rest _ hMiddle hAround
          (hHolds.second hFirstGrown)
      rw [childrenElements]
      exact
        hFirst.append hRest hFirstGrown.size_le
          hRestGrown.size_le

theorem plantChild_displays
    {parent : NodeId}
    {layers : List (Layer Declaration)}
    (child : MarkupChild Declaration)
    (tree : Tree String)
    (hAround : whole.Surrounds parent (surroundingsOf layers))
    (hHolds :
      whole.Holds tree
        (plantChild source parent child tree).2) :
    whole.Displays tree.size
      (plantChild source parent child tree).2.size
      (child.elements layers) := by
  match child with
  | .text value span =>
      exact Tree.Displays.nothing whole tree.size
  | .empty span => exact Tree.Displays.nothing whole tree.size
  | .spread span => exact Tree.Displays.nothing whole tree.size
  | .code value span =>
      exact plantCode_displays value tree hAround hHolds
  | .markup element =>
      exact
        plantMarkup_displays element tree hAround hHolds

/- Code is no element, but what is in it is one layer deeper. -/
theorem plantCode_displays
    {parent : NodeId}
    {layers : List (Layer Declaration)}
    (code : Code Declaration)
    (tree : Tree String)
    (hAround : whole.Surrounds parent (surroundingsOf layers))
    (hHolds :
      whole.Holds tree (plantCode source parent code tree).2) :
    whole.Displays tree.size
      (plantCode source parent code tree).2.size
      (code.elements layers) := by
  match code with
  | .mk span pieces =>
      have hSelf :=
        Tree.lt_size_push tree parent span (.code [])
      have hGrown :=
        plantPieces_grown source tree.size pieces _ hSelf
      rcases Tree.Holds.filled hHolds hGrown with
        ⟨hNode, hInner⟩
      have hBelow :
          whole.Surrounds tree.size
            (surroundingsOf (.code :: layers)) :=
        Tree.Surrounds.below hNode rfl hAround
      have hPieces :=
        plantPieces_displays pieces _ hSelf hBelow hInner
      rw [Tree.size_push] at hPieces
      simp only [plantCode, Tree.addCode, Tree.setCode,
        Tree.size_setKind]
      exact
        hPieces.pass hNode rfl
          (Nat.lt_of_lt_of_le hSelf hGrown.size_le)

end

end Planted

namespace Tree

variable {T : Type}

/- At every stage an element is lowered in its first scope. -/
theorem Orderly.lowerNode_eq
    {host : Host T}
    {config : Config T}
    {tree now : Tree T}
    {id : NodeId}
    {node : Node T}
    {content : ElementNode}
    (hOrderly : Orderly tree now (id + 1))
    (hNode : tree.get? id = some node)
    (hKind : node.kind = .element content) :
    now.lowerNode host config id =
      now.lowerElement host config id node.span content
        (tree.scopeOf id) := by
  have hNow : now.get? id = some node :=
    (hOrderly.raw id (Nat.lt_succ_self id)).trans hNode
  exact hOrderly.stage.lowerNode_eq hNow hKind

end Tree

end MarkupLowering
