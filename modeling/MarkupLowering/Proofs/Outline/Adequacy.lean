import MarkupLowering.Proofs.Outline.Emission
import MarkupLowering.Proofs.Outline.Planting
import MarkupLowering.Proofs.Text.Bytes

/-
  This file shows that the arena of a module means what the
  module becomes by recursion on its outline.

  A node that was planted is not touched again, so what it
  means can be told from the arena of the whole module, and
  what stands around it from the parent links there.

  Key definitions include:
    * `Tree.Surrounds`
    * `Tree.Holds`
    * `HasCode`

  Key theorems include:
    * `cutCode_meaning`
    * `plantMarkup_meaning`
    * `plantCode_meaning`
    * `Outline.plant_meaning`
-/

namespace MarkupLowering

variable {T : Type}

namespace Tree

------------------------------------------------------------
-- Surroundings
------------------------------------------------------------

/- What stands around everything below a node. -/
def Surrounds
    (tree : Tree T)
    (id : NodeId)
    (around : Surroundings) : Prop :=
  ∀ limit,
    (tree.chainFrom limit (some id)).map Node.enclosure? =
      around.take limit

namespace Surrounds

variable {tree : Tree T}
variable {id parent : NodeId}
variable {node : Node T}
variable {around : Surroundings}

theorem top
    (hNode : tree.get? id = some node)
    (hParent : node.parent = none) :
    tree.Surrounds id [node.enclosure?] := by
  intro limit
  cases limit with
  | zero => rfl
  | succ limit =>
      simp only [chainFrom, hNode, hParent]
      cases limit with
      | zero => rfl
      | succ limit => rfl

theorem below
    (hNode : tree.get? id = some node)
    (hParent : node.parent = some parent)
    (hAround : tree.Surrounds parent around) :
    tree.Surrounds id (node.enclosure? :: around) := by
  intro limit
  cases limit with
  | zero => rfl
  | succ limit =>
      simp only [chainFrom, hNode, hParent, List.map_cons,
        List.take_succ_cons]
      rw [hAround limit]

/- The scope of a node is told from what stands around it. -/
theorem scopeOf_eq
    (hNode : tree.get? id = some node)
    (hParent : node.parent = some parent)
    (hAround : tree.Surrounds parent around) :
    tree.scopeOf id = Scope.resolve around := by
  unfold scopeOf ancestors
  rw [hNode, Option.bind_some, hParent,
    hAround Scope.hopLimit]
  unfold Scope.resolve
  rw [List.take_take, Nat.min_self]

end Surrounds

------------------------------------------------------------
-- Stages of an Arena
------------------------------------------------------------

/-
  The arena holds what was added between two stages, as it was
  at the later one.
-/
def Holds
    (whole old new : Tree T) : Prop :=
  ∀ id,
    old.size ≤ id →
    id < new.size →
      whole.get? id = new.get? id

namespace Holds

variable {whole old middle new tree : Tree T}
variable {pending : List NodeId}
variable {parent : NodeId}
variable {span : Span}

theorem first
    (hHolds : whole.Holds old new)
    (hGrown : middle.Grown new pending) :
    whole.Holds old middle := by
  intro id hGe hLt
  have hNew : id < new.size :=
    Nat.lt_of_lt_of_le hLt hGrown.size_le
  rw [hHolds id hGe hNew]
  exact hGrown.get?_eq hLt

theorem second
    (hHolds : whole.Holds old new)
    (hGrown : old.Grown middle pending) :
    whole.Holds middle new := by
  intro id hGe hLt
  exact hHolds id (Nat.le_trans hGrown.size_le hGe) hLt

/- The added node and what was added after it. -/
theorem pushed
    {kind : NodeKind T}
    (hHolds : whole.Holds tree new)
    (hGrown : (tree.push parent span kind).2.Grown new pending) :
    whole.get? tree.size = some ⟨some parent, span, kind⟩ ∧
      whole.Holds (tree.push parent span kind).2 new := by
  have hSelf := lt_size_push tree parent span kind
  refine ⟨?_, ?_⟩
  · rw [hHolds tree.size (Nat.le_refl _)
      (Nat.lt_of_lt_of_le hSelf hGrown.size_le),
      hGrown.get?_eq hSelf]
    exact get?_push tree parent span kind
  · intro id hGe hLt
    exact
      hHolds id (Nat.le_trans (Nat.le_of_lt hSelf) hGe) hLt

/- The same for a node that was filled after the others. -/
theorem filled
    {before kind : NodeKind T}
    (hHolds : whole.Holds tree (new.setKind tree.size kind))
    (hGrown :
      (tree.push parent span before).2.Grown new pending) :
    whole.get? tree.size = some ⟨some parent, span, kind⟩ ∧
      whole.Holds (tree.push parent span before).2 new := by
  have hSelf := lt_size_push tree parent span before
  have hNode :
      new.get? tree.size = some ⟨some parent, span, before⟩ :=
    (hGrown.get?_eq hSelf).trans
      (get?_push tree parent span before)
  refine ⟨?_, ?_⟩
  · rw [hHolds tree.size (Nat.le_refl _) (by
      rw [size_setKind]
      exact Nat.lt_of_lt_of_le hSelf hGrown.size_le)]
    exact get?_setKind_self new kind hNode
  · intro id hGe hLt
    have hLater : tree.size < id :=
      Nat.lt_of_lt_of_le hSelf hGe
    rw [hHolds id (Nat.le_of_lt hLater) (by
      rw [size_setKind]
      exact hLt)]
    exact
      get?_setKind_ne new kind (Nat.ne_of_lt hLater)

end Holds

end Tree

------------------------------------------------------------
-- Cut Code
------------------------------------------------------------

section Cutting

variable (tokenOf : NodeId → Except LowerError String)

/- A hole with what is written in it. -/
def Hole.patch
    (hole : Hole) : Patch (Except LowerError String) :=
  ⟨hole.span, tokenOf hole.node⟩

theorem insertHole_map
    (hole : Hole)
    (holes : List Hole) :
    (insertHole hole holes).map (Hole.patch tokenOf) =
      (holes.map (Hole.patch tokenOf)).orderedInsert
        Patch.Precedes (hole.patch tokenOf) := by
  induction holes with
  | nil => rfl
  | cons other others ih =>
      have hPrecedes :
          Patch.Precedes (hole.patch tokenOf)
              (other.patch tokenOf) ↔
            hole.span.start ≤ other.span.start :=
        Iff.rfl
      rw [insertHole, List.map_cons, List.orderedInsert_cons]
      by_cases hLe : hole.span.start ≤ other.span.start
      · rw [if_pos hLe, if_pos (hPrecedes.mpr hLe)]
        rfl
      · rw [if_neg hLe, if_neg (mt hPrecedes.mp hLe),
          List.map_cons, ih]

theorem sortHoles_map
    (holes : List Hole) :
    (sortHoles holes).map (Hole.patch tokenOf) =
      (holes.map (Hole.patch tokenOf)).insertionSort
        Patch.Precedes := by
  induction holes with
  | nil => rfl
  | cons hole holes ih =>
      rw [List.map_cons, List.insertionSort_cons, ← ih]
      exact insertHole_map tokenOf hole (sortHoles holes)

/- The tokens of the parts of code, one after the other. -/
def joinParts
    (parts : List (CodePart String)) :
    Except LowerError String :=
  (parts.mapM (CodePart.withTokens tokenOf)).map
    Host.text.splice

theorem joinParts_cons
    (part : CodePart String)
    (parts : List (CodePart String)) :
    joinParts tokenOf (part :: parts) =
      (do
        let text ← part.withTokens tokenOf
        let rest ← joinParts tokenOf parts
        return text ++ rest) := by
  unfold joinParts
  rw [List.mapM_cons]
  cases part.withTokens tokenOf with
  | error error => rfl
  | ok text =>
      cases parts.mapM (CodePart.withTokens tokenOf) with
      | error error => rfl
      | ok tokens =>
          have hJoin :
              String.join (text :: tokens) =
                text ++ String.join tokens := by
            simp
          exact congrArg Except.ok hJoin

/- Code cut at its holes means what it is spliced to. -/
theorem cutFrom_meaning
    (source : List Char)
    (stop cursor : Nat)
    (holes : List Hole) :
    joinParts tokenOf (cutFrom source stop cursor holes) =
      spliceFrom source stop cursor
        (holes.map (Hole.patch tokenOf)) := by
  induction holes generalizing cursor with
  | nil =>
      simp only [cutFrom, List.map_nil, spliceFrom]
      split
      · rw [joinParts_cons]
        exact congrArg Except.ok (String.append_empty)
      · rename_i hPast
        rw [Text.clip_eq_nil (Nat.le_of_not_lt hPast)]
        rfl
  | cons hole holes ih =>
      have hNode :
          joinParts tokenOf
              (.node hole.node ::
                cutFrom source stop hole.span.stop holes) =
            (do
              let text ← tokenOf hole.node
              let rest ←
                spliceFrom source stop hole.span.stop
                  (holes.map (Hole.patch tokenOf))
              return text ++ rest) := by
        rw [joinParts_cons, ih]
        rfl
      simp only [cutFrom, List.map_cons, spliceFrom, Hole.patch]
      split
      · rw [joinParts_cons, hNode]
        cases tokenOf hole.node with
        | error error => rfl
        | ok text =>
            cases spliceFrom source stop hole.span.stop
                (holes.map (Hole.patch tokenOf)) with
            | error error => rfl
            | ok rest =>
                exact congrArg Except.ok
                  String.append_assoc.symm
      · rename_i hPast
        rw [hNode, Text.clip_eq_nil (Nat.le_of_not_lt hPast)]
        simp

theorem cutCode_meaning
    (source : List Char)
    (span : Span)
    (holes : List Hole) :
    joinParts tokenOf (cutCode source span holes) =
      splice source span (holes.map (Hole.patch tokenOf)) := by
  unfold cutCode splice
  rw [cutFrom_meaning, sortHoles_map]

end Cutting

------------------------------------------------------------
-- Planted Nodes
------------------------------------------------------------

theorem sequence_map
    {α β : Type}
    (read : α → Except LowerError β)
    (items : List α) :
    sequence (items.map read) = items.mapM read := by
  unfold sequence
  rw [List.mapM_map]
  rfl

section Planted

variable {whole : Tree String}
variable (config : Config String)
variable (source : List Char)

/- An element means what it becomes with its tokens. -/
theorem element_meaning
    (hWell : whole.WellFormed)
    {id parent : NodeId}
    {around : Surroundings}
    {span : Span}
    {content : ElementNode}
    (hNode :
      whole.get? id =
        some ⟨some parent, span, .element content⟩)
    (hAround : whole.Surrounds parent around) :
    whole.meaning Host.text config id =
      (do
        let attributes ←
          sequence
            (content.attributes.map
              (AttributeNode.withTokens
                (whole.meaning Host.text config)))
        let children ←
          sequence
            (content.children.map
              (ChildNode.withTokens whole.spanOf
                (whole.meaning Host.text config)))
        let lowered ←
          Element.lower config
            ⟨content.tag, attributes, children,
              content.hasClosingTag, span⟩
            (Scope.resolve around)
        return Emission.lowered lowered) := by
  rw [hWell.meaning_eq Host.text config hNode,
    Tree.Surrounds.scopeOf_eq hNode rfl hAround]
  simp only [NodeKind.meaning, ElementNode.withTokens,
    sequence_map, bind_assoc, pure_bind]
  rfl

/- Code means what it is spliced to. -/
theorem code_meaning
    (hWell : whole.WellFormed)
    {id : NodeId}
    {parent : Option NodeId}
    {span : Span}
    {holes : List Hole}
    (hNode :
      whole.get? id =
        some ⟨parent, span, .code (cutCode source span holes)⟩) :
    whole.meaning Host.text config id =
      splice source span
        (holes.map
          (Hole.patch (whole.meaning Host.text config))) := by
  rw [hWell.meaning_eq Host.text config hNode,
    ← cutCode_meaning]
  rfl

/-
  All of the code has nodes of its own, which mean what it
  becomes.
-/
def HasCode
    (whole : Tree String)
    (codes : List (Surroundings × Code Declaration)) : Prop :=
  ∀ placed ∈ codes,
    ∃ id parent parts,
      whole.get? id =
          some ⟨parent, placed.2.span, .code parts⟩ ∧
        whole.meaning Host.text config id =
          placed.2.emitted config source placed.1

variable {config source}

theorem HasCode.nil :
    HasCode config source whole [] := by
  intro placed hPlaced
  cases hPlaced

theorem HasCode.append
    {first second : List (Surroundings × Code Declaration)}
    (hFirst : HasCode config source whole first)
    (hSecond : HasCode config source whole second) :
    HasCode config source whole (first ++ second) := by
  intro placed hPlaced
  rcases List.mem_append.mp hPlaced with hLeft | hRight
  · exact hFirst placed hLeft
  · exact hSecond placed hRight

variable (config source)

mutual

/- The elements in planted pieces mean what they become. -/
theorem plantPieces_meaning
    (hWell : whole.WellFormed)
    {parent : NodeId}
    {around : Surroundings}
    (pieces : List (Piece Declaration))
    (tree : Tree String)
    (hParent : parent < tree.size)
    (hAround : whole.Surrounds parent around)
    (hHolds :
      whole.Holds tree
        (plantPieces source parent pieces tree).2) :
    (plantPieces source parent pieces tree).1.map
          (Hole.patch (whole.meaning Host.text config)) =
        patchesIn config source around pieces ∧
      HasCode config source whole
        (embeddedIn around pieces) := by
  match pieces with
  | [] => exact ⟨rfl, HasCode.nil⟩
  | piece :: pieces =>
      have hFirstGrown :=
        plantPiece_grown source parent piece tree hParent
      have hMiddle :=
        Nat.lt_of_lt_of_le hParent hFirstGrown.size_le
      have hRestGrown :=
        plantPieces_grown source parent pieces _ hMiddle
      have hFirst :=
        plantPiece_meaning hWell piece tree hAround
          (hHolds.first hRestGrown)
      have hRest :=
        plantPieces_meaning hWell pieces _ hMiddle hAround
          (hHolds.second hFirstGrown)
      refine ⟨?_, hFirst.2.append hRest.2⟩
      simp only [plantPieces, patchesIn, List.map_append]
      rw [hFirst.1, hRest.1]

theorem plantPiece_meaning
    (hWell : whole.WellFormed)
    {parent : NodeId}
    {around : Surroundings}
    (piece : Piece Declaration)
    (tree : Tree String)
    (hAround : whole.Surrounds parent around)
    (hHolds :
      whole.Holds tree
        (plantPiece source parent piece tree).2) :
    (plantPiece source parent piece tree).1.map
          (Hole.patch (whole.meaning Host.text config)) =
        piece.patches config source around ∧
      HasCode config source whole (piece.embedded around) := by
  match piece with
  | .group head body =>
      simp only [plantPiece] at hHolds ⊢
      rw [Piece.patches, Piece.embedded, Declaration.enter]
      have hSelf :=
        Tree.lt_size_push tree parent head.span
          (.scope head.enclosure)
      have hGrown :=
        plantPieces_grown source tree.size body _ hSelf
      rcases Tree.Holds.pushed hHolds hGrown with
        ⟨hNode, hInner⟩
      exact
        plantPieces_meaning hWell body _ hSelf
          (Tree.Surrounds.below hNode rfl hAround) hInner
  | .markup element =>
      have hElement :=
        plantMarkup_meaning hWell element tree hAround hHolds
      refine ⟨?_, hElement.2.2⟩
      rw [Piece.patches, plantPiece, List.map_singleton,
        Hole.patch, hElement.1]

/- A planted element means what it becomes. -/
theorem plantMarkup_meaning
    (hWell : whole.WellFormed)
    {parent : NodeId}
    {around : Surroundings}
    (element : Markup Declaration)
    (tree : Tree String)
    (hAround : whole.Surrounds parent around)
    (hHolds :
      whole.Holds tree
        (plantMarkup source parent element tree).2) :
    whole.meaning Host.text config
          (plantMarkup source parent element tree).1 =
        element.emitted config source around ∧
      whole.spanOf (plantMarkup source parent element tree).1 =
        element.span ∧
      HasCode config source whole (element.embedded around) := by
  match element with
  | .mk span tag attributes content =>
      have hSelf :=
        Tree.lt_size_push tree parent span
          (.element ⟨tag, [], [], content.isSome⟩)
      have hAttributesGrown :=
        (plantAttributes_grown source tree.size attributes _
          hSelf).1
      have hMiddle :=
        Nat.lt_of_lt_of_le hSelf hAttributesGrown.size_le
      have hContentGrown :=
        (plantContent_grown source tree.size content _
          hMiddle).1
      have hGrown := hAttributesGrown.trans hContentGrown
      simp only [plantMarkup, Tree.addElement] at hHolds
      rw [show (tree.push parent span (.element
          ⟨tag, [], [], content.isSome⟩)).1 = tree.size from rfl,
        editElement_grown hGrown] at hHolds
      rcases Tree.Holds.filled hHolds hGrown with
        ⟨hNode, hInner⟩
      have hBelow :
          whole.Surrounds tree.size (none :: around) :=
        Tree.Surrounds.below hNode rfl hAround
      have hAttributes :=
        plantAttributes_meaning hWell attributes _ hSelf hBelow
          (hInner.first hContentGrown)
      have hContent :=
        plantContent_meaning hWell content _ hMiddle hBelow
          (hInner.second hAttributesGrown)
      refine
        ⟨?_, Tree.spanOf_eq hNode, hAttributes.2.append hContent.2⟩
      rw [Markup.emitted, ← hAttributes.1, ← hContent.1]
      exact element_meaning config hWell hNode hAround

theorem plantAttributes_meaning
    (hWell : whole.WellFormed)
    {parent : NodeId}
    {around : Surroundings}
    (attributes : List (MarkupAttribute Declaration))
    (tree : Tree String)
    (hParent : parent < tree.size)
    (hAround : whole.Surrounds parent around)
    (hHolds :
      whole.Holds tree
        (plantAttributes source parent attributes tree).2) :
    (plantAttributes source parent attributes tree).1.map
          (AttributeNode.withTokens
            (whole.meaning Host.text config)) =
        attributesEmitted config source around attributes ∧
      HasCode config source whole
        (attributesEmbedded around attributes) := by
  match attributes with
  | [] => exact ⟨rfl, HasCode.nil⟩
  | attr :: rest =>
      have hFirstGrown :=
        (plantAttribute_grown source parent attr tree hParent).1
      have hMiddle :=
        Nat.lt_of_lt_of_le hParent hFirstGrown.size_le
      have hRestGrown :=
        (plantAttributes_grown source parent rest _ hMiddle).1
      have hFirst :=
        plantAttribute_meaning hWell attr tree hAround
          (hHolds.first hRestGrown)
      have hRest :=
        plantAttributes_meaning hWell rest _ hMiddle hAround
          (hHolds.second hFirstGrown)
      refine ⟨?_, hFirst.2.append hRest.2⟩
      simp only [plantAttributes, attributesEmitted,
        List.map_cons]
      rw [hFirst.1, hRest.1]

theorem plantAttribute_meaning
    (hWell : whole.WellFormed)
    {parent : NodeId}
    {around : Surroundings}
    (attr : MarkupAttribute Declaration)
    (tree : Tree String)
    (hAround : whole.Surrounds parent around)
    (hHolds :
      whole.Holds tree
        (plantAttribute source parent attr tree).2) :
    (plantAttribute source parent attr tree).1.withTokens
          (whole.meaning Host.text config) =
        attr.emitted config source around ∧
      HasCode config source whole (attr.embedded around) := by
  match attr with
  | .absent name span => exact ⟨rfl, HasCode.nil⟩
  | .text name value span => exact ⟨rfl, HasCode.nil⟩
  | .empty name span => exact ⟨rfl, HasCode.nil⟩
  | .code name value span =>
      have hCode :=
        plantCode_meaning hWell value tree hAround hHolds
      refine ⟨?_, hCode.2⟩
      rw [MarkupAttribute.emitted, ← hCode.1]
      rfl
  | .markup name value span =>
      have hElement :=
        plantMarkup_meaning hWell value tree hAround hHolds
      refine ⟨?_, hElement.2.2⟩
      rw [MarkupAttribute.emitted, ← hElement.1]
      rfl
  | .spread argument span =>
      have hCode :=
        plantCode_meaning hWell argument tree hAround hHolds
      refine ⟨?_, hCode.2⟩
      rw [MarkupAttribute.emitted, ← hCode.1]
      rfl

theorem plantContent_meaning
    (hWell : whole.WellFormed)
    {parent : NodeId}
    {around : Surroundings}
    (content : Option (List (MarkupChild Declaration)))
    (tree : Tree String)
    (hParent : parent < tree.size)
    (hAround : whole.Surrounds parent around)
    (hHolds :
      whole.Holds tree
        (plantContent source parent content tree).2) :
    (plantContent source parent content tree).1.map
          (ChildNode.withTokens whole.spanOf
            (whole.meaning Host.text config)) =
        contentEmitted config source around content ∧
      HasCode config source whole
        (contentEmbedded around content) := by
  match content with
  | none => exact ⟨rfl, HasCode.nil⟩
  | some children =>
      exact
        plantChildren_meaning hWell children tree hParent
          hAround hHolds

theorem plantChildren_meaning
    (hWell : whole.WellFormed)
    {parent : NodeId}
    {around : Surroundings}
    (children : List (MarkupChild Declaration))
    (tree : Tree String)
    (hParent : parent < tree.size)
    (hAround : whole.Surrounds parent around)
    (hHolds :
      whole.Holds tree
        (plantChildren source parent children tree).2) :
    (plantChildren source parent children tree).1.map
          (ChildNode.withTokens whole.spanOf
            (whole.meaning Host.text config)) =
        childrenEmitted config source around children ∧
      HasCode config source whole
        (childrenEmbedded around children) := by
  match children with
  | [] => exact ⟨rfl, HasCode.nil⟩
  | child :: rest =>
      have hFirstGrown :=
        plantChild_grown source parent child tree hParent
      have hMiddle :=
        Nat.lt_of_lt_of_le hParent hFirstGrown.size_le
      have hRestGrown :=
        plantChildren_grown source parent rest _ hMiddle
      have hFirst :=
        plantChild_meaning hWell child tree hAround
          (hHolds.first hRestGrown)
      have hRest :=
        plantChildren_meaning hWell rest _ hMiddle hAround
          (hHolds.second hFirstGrown)
      refine ⟨?_, hFirst.2.append hRest.2⟩
      simp only [plantChildren, childrenEmitted,
        List.map_append]
      rw [hFirst.1, hRest.1]

theorem plantChild_meaning
    (hWell : whole.WellFormed)
    {parent : NodeId}
    {around : Surroundings}
    (child : MarkupChild Declaration)
    (tree : Tree String)
    (hAround : whole.Surrounds parent around)
    (hHolds :
      whole.Holds tree
        (plantChild source parent child tree).2) :
    (plantChild source parent child tree).1.toList.map
          (ChildNode.withTokens whole.spanOf
            (whole.meaning Host.text config)) =
        (child.emitted config source around).toList ∧
      HasCode config source whole (child.embedded around) := by
  match child with
  | .text value span => exact ⟨rfl, HasCode.nil⟩
  | .empty span => exact ⟨rfl, HasCode.nil⟩
  | .spread span => exact ⟨rfl, HasCode.nil⟩
  | .code value span =>
      have hCode :=
        plantCode_meaning hWell value tree hAround hHolds
      refine ⟨?_, hCode.2⟩
      rw [MarkupChild.emitted, ← hCode.1]
      rfl
  | .markup element =>
      have hElement :=
        plantMarkup_meaning hWell element tree hAround hHolds
      refine ⟨?_, hElement.2.2⟩
      rw [MarkupChild.emitted, ← hElement.1, ← hElement.2.1]
      rfl

/- Planted code means what it becomes. -/
theorem plantCode_meaning
    (hWell : whole.WellFormed)
    {parent : NodeId}
    {around : Surroundings}
    (code : Code Declaration)
    (tree : Tree String)
    (hAround : whole.Surrounds parent around)
    (hHolds :
      whole.Holds tree (plantCode source parent code tree).2) :
    whole.meaning Host.text config
          (plantCode source parent code tree).1 =
        code.emitted config source around ∧
      HasCode config source whole (code.embedded around) := by
  match code with
  | .mk span pieces =>
      have hSelf :=
        Tree.lt_size_push tree parent span (.code [])
      have hGrown :=
        plantPieces_grown source tree.size pieces _ hSelf
      rcases Tree.Holds.filled hHolds hGrown with
        ⟨hNode, hInner⟩
      have hBelow :
          whole.Surrounds tree.size (none :: around) :=
        Tree.Surrounds.below hNode rfl hAround
      have hPieces :=
        plantPieces_meaning hWell pieces _ hSelf hBelow hInner
      have hMeaning :
          whole.meaning Host.text config tree.size =
            (Code.mk span pieces).emitted config source
              around := by
        rw [Code.emitted, ← hPieces.1]
        exact code_meaning config source hWell hNode
      refine ⟨hMeaning, ?_⟩
      intro placed hPlaced
      rcases List.mem_cons.mp hPlaced with hSelfPlaced | hInside
      · rw [hSelfPlaced]
        exact ⟨tree.size, _, _, hNode, hMeaning⟩
      · exact hPieces.2 placed hInside

end

end Planted

------------------------------------------------------------
-- Modules
------------------------------------------------------------

namespace Outline

/- A module as code that nothing stands around. -/
def whole
    (source : String)
    (outline : Outline) : Code Declaration :=
  .mk (moduleSpan source) outline.pieces

theorem plant_surrounds
    (source : String)
    (outline : Outline) :
    (outline.plant source).Surrounds Tree.root [none] :=
  Tree.Surrounds.top (plant_root source outline) rfl

/- Only the code of the module is filled after its pieces. -/
theorem plant_holds
    (source : String)
    (outline : Outline) :
    (outline.plant source).Holds
      (Tree.ofSpan (moduleSpan source))
      (plantPieces source.toList Tree.root outline.pieces
        (Tree.ofSpan (moduleSpan source))).2 := by
  intro id hGe _
  exact Tree.get?_setKind_ne _ _ (Nat.ne_of_lt hGe)

/-
  The arena of a module means what the module becomes, and so
  does the node of each piece of code in it.
-/
theorem plant_meaning
    (config : Config String)
    (source : String)
    (outline : Outline) :
    (outline.plant source).meaning Host.text config Tree.root =
        (outline.whole source).emitted config source.toList [] ∧
      HasCode config source.toList (outline.plant source)
        ((outline.whole source).embedded []) := by
  have hWell := plant_wellFormed source outline
  have hRoot := plant_root source outline
  have hPieces :=
    plantPieces_meaning config source.toList hWell
      outline.pieces _ Nat.zero_lt_one
      (plant_surrounds source outline)
      (plant_holds source outline)
  have hMeaning :
      (outline.plant source).meaning Host.text config Tree.root =
        (outline.whole source).emitted config source.toList
          [] := by
    rw [whole, Code.emitted, ← hPieces.1]
    exact code_meaning config source.toList hWell hRoot
  refine ⟨hMeaning, ?_⟩
  intro placed hPlaced
  rcases List.mem_cons.mp hPlaced with hSelf | hInside
  · rw [hSelf]
    exact ⟨Tree.root, _, _, hRoot, hMeaning⟩
  · exact hPieces.2 placed hInside

end Outline

end MarkupLowering
