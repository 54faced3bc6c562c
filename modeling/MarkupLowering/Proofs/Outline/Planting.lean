import MarkupLowering.Outline.Plant
import MarkupLowering.Proofs.Outline.Growth

/-
  This file shows that planting an outline makes the arena
  grow by sprouts, and what this says about the arena of a
  whole module.

  Key theorems include:
    * `cutCode_targets`
    * `plantPieces_grown`
    * `plantMarkup_grown`
    * `Outline.plant_targets_perm`
    * `Outline.plant_wellFormed`
-/

namespace MarkupLowering

------------------------------------------------------------
-- Cut Code
------------------------------------------------------------

theorem insertHole_perm
    (hole : Hole)
    (holes : List Hole) :
    (insertHole hole holes).Perm (hole :: holes) := by
  induction holes with
  | nil => exact List.Perm.refl _
  | cons other others ih =>
      simp only [insertHole]
      split
      · exact List.Perm.refl _
      · exact
          (ih.cons other).trans (List.Perm.swap hole other others)

/- Sorting loses no hole and adds none. -/
theorem sortHoles_perm
    (holes : List Hole) :
    (sortHoles holes).Perm holes := by
  induction holes with
  | nil => exact List.Perm.refl _
  | cons hole holes ih =>
      exact
        (insertHole_perm hole (sortHoles holes)).trans
          (ih.cons hole)

theorem cutFrom_targets
    (source : List Char)
    (stop cursor : Nat)
    (holes : List Hole) :
    (cutFrom source stop cursor holes).flatMap
        CodePart.targets =
      holes.map Hole.node := by
  induction holes generalizing cursor with
  | nil =>
      simp only [cutFrom]
      split <;> rfl
  | cons hole holes ih =>
      simp only [cutFrom]
      split
      · rw [List.flatMap_cons, List.flatMap_cons, ih]
        rfl
      · rw [List.flatMap_cons, ih]
        rfl

/- Code refers to the elements in it, each once. -/
theorem cutCode_targets
    (source : List Char)
    (span : Span)
    (holes : List Hole) :
    ((cutCode source span holes).flatMap
        CodePart.targets).Perm
      (holes.map Hole.node) := by
  unfold cutCode
  rw [cutFrom_targets]
  exact (sortHoles_perm holes).map Hole.node

------------------------------------------------------------
-- Planting
------------------------------------------------------------

/- An element that is filled after its content was planted. -/
theorem editElement_grown
    {tree new : Tree String}
    {parent : NodeId}
    {pending : List NodeId}
    {span : Span}
    {before : ElementNode}
    (hGrown :
      (tree.push parent span (.element before)).2.Grown new
        pending)
    (edit : ElementNode → ElementNode) :
    new.editElement tree.size edit =
      new.setKind tree.size (.element (edit before)) := by
  have hGet :
      new.get? tree.size =
        some ⟨some parent, span, .element before⟩ := by
    rw [hGrown.get?_eq (Tree.lt_size_push tree parent span _)]
    exact Tree.get?_push tree parent span _
  simp only [Tree.editElement, hGet]

mutual

/- Pieces leave the elements that stand directly in them pending. -/
theorem plantPieces_grown
    (source : List Char)
    (parent : NodeId)
    (pieces : List (Piece Declaration))
    (tree : Tree String)
    (hParent : parent < tree.size) :
    tree.Grown (plantPieces source parent pieces tree).2
      ((plantPieces source parent pieces tree).1.map
        Hole.node) := by
  match pieces with
  | [] => exact Tree.Grown.refl tree
  | piece :: pieces =>
      have hFirst :=
        plantPiece_grown source parent piece tree hParent
      have hRest :=
        plantPieces_grown source parent pieces _
          (Nat.lt_of_lt_of_le hParent hFirst.size_le)
      simp only [plantPieces, List.map_append]
      exact hFirst.trans hRest

theorem plantPiece_grown
    (source : List Char)
    (parent : NodeId)
    (piece : Piece Declaration)
    (tree : Tree String)
    (hParent : parent < tree.size) :
    tree.Grown (plantPiece source parent piece tree).2
      ((plantPiece source parent piece tree).1.map
        Hole.node) := by
  match piece with
  | .group head body =>
      have hBody :=
        plantPieces_grown source tree.size body
          (tree.push parent head.span (.scope head.enclosure)).2
          (Tree.lt_size_push tree parent head.span _)
      exact hBody.declare hParent
  | .markup element =>
      simp only [plantPiece, List.map_cons, List.map_nil]
      exact plantMarkup_grown source parent element tree hParent

/- An element leaves itself pending. -/
theorem plantMarkup_grown
    (source : List Char)
    (parent : NodeId)
    (element : Markup Declaration)
    (tree : Tree String)
    (hParent : parent < tree.size) :
    tree.Grown (plantMarkup source parent element tree).2
      [(plantMarkup source parent element tree).1] := by
  match element with
  | .mk span tag attributes content =>
      have hSelf :=
        Tree.lt_size_push tree parent span
          (.element ⟨tag, [], [], content.isSome⟩)
      have hAttributes :=
        plantAttributes_grown source tree.size attributes
          _ hSelf
      have hContent :=
        plantContent_grown source tree.size content _
          (Nat.lt_of_lt_of_le hSelf hAttributes.1.size_le)
      have hBoth := hAttributes.1.trans hContent.1
      simp only [plantMarkup, Tree.addElement]
      rw [show (tree.push parent span (.element
        ⟨tag, [], [], content.isSome⟩)).1 = tree.size from rfl]
      rw [editElement_grown hBoth]
      apply hBoth.enclose hParent rfl
      · exact ⟨hAttributes.2, fun hClosing => hContent.2 (by
          simpa using hClosing)⟩
      · exact List.Perm.refl _

/- Attributes leave what they refer to pending. -/
theorem plantAttributes_grown
    (source : List Char)
    (parent : NodeId)
    (attributes : List (MarkupAttribute Declaration))
    (tree : Tree String)
    (hParent : parent < tree.size) :
    tree.Grown (plantAttributes source parent attributes tree).2
        ((plantAttributes source parent attributes tree).1.flatMap
          fun attr => attr.slot.targets) ∧
      ∀ attr ∈ (plantAttributes source parent attributes tree).1,
        attr.slot.isOther = false := by
  match attributes with
  | [] =>
      exact ⟨Tree.Grown.refl tree, fun _ hAttr => by cases hAttr⟩
  | attr :: attributes =>
      have hFirst :=
        plantAttribute_grown source parent attr tree hParent
      have hRest :=
        plantAttributes_grown source parent attributes _
          (Nat.lt_of_lt_of_le hParent hFirst.1.size_le)
      simp only [plantAttributes, List.flatMap_cons,
        List.mem_cons, forall_eq_or_imp]
      exact ⟨hFirst.1.trans hRest.1, hFirst.2, hRest.2⟩

theorem plantAttribute_grown
    (source : List Char)
    (parent : NodeId)
    (attr : MarkupAttribute Declaration)
    (tree : Tree String)
    (hParent : parent < tree.size) :
    tree.Grown (plantAttribute source parent attr tree).2
        (plantAttribute source parent attr tree).1.slot.targets ∧
      (plantAttribute source parent attr tree).1.slot.isOther =
        false := by
  match attr with
  | .absent name span => exact ⟨Tree.Grown.refl tree, rfl⟩
  | .text name value span => exact ⟨Tree.Grown.refl tree, rfl⟩
  | .empty name span => exact ⟨Tree.Grown.refl tree, rfl⟩
  | .code name value span =>
      exact ⟨plantCode_grown source parent value tree hParent, rfl⟩
  | .markup name value span =>
      exact
        ⟨plantMarkup_grown source parent value tree hParent, rfl⟩
  | .spread argument span =>
      exact
        ⟨plantCode_grown source parent argument tree hParent, rfl⟩

/- Without a closing tag nothing is planted between the tags. -/
theorem plantContent_grown
    (source : List Char)
    (parent : NodeId)
    (content : Option (List (MarkupChild Declaration)))
    (tree : Tree String)
    (hParent : parent < tree.size) :
    tree.Grown (plantContent source parent content tree).2
        ((plantContent source parent content tree).1.flatMap
          ChildNode.targets) ∧
      (content = none →
        (plantContent source parent content tree).1 = []) := by
  match content with
  | none => exact ⟨Tree.Grown.refl tree, fun _ => rfl⟩
  | some children =>
      exact
        ⟨plantChildren_grown source parent children tree hParent,
          fun hNone => by cases hNone⟩

/- Children leave what they refer to pending. -/
theorem plantChildren_grown
    (source : List Char)
    (parent : NodeId)
    (children : List (MarkupChild Declaration))
    (tree : Tree String)
    (hParent : parent < tree.size) :
    tree.Grown (plantChildren source parent children tree).2
      ((plantChildren source parent children tree).1.flatMap
        ChildNode.targets) := by
  match children with
  | [] => exact Tree.Grown.refl tree
  | child :: children =>
      have hFirst :=
        plantChild_grown source parent child tree hParent
      have hRest :=
        plantChildren_grown source parent children _
          (Nat.lt_of_lt_of_le hParent hFirst.size_le)
      simp only [plantChildren, List.flatMap_append]
      exact hFirst.trans hRest

theorem plantChild_grown
    (source : List Char)
    (parent : NodeId)
    (child : MarkupChild Declaration)
    (tree : Tree String)
    (hParent : parent < tree.size) :
    tree.Grown (plantChild source parent child tree).2
      ((plantChild source parent child tree).1.toList.flatMap
        ChildNode.targets) := by
  match child with
  | .text value span => exact Tree.Grown.refl tree
  | .code value span =>
      exact plantCode_grown source parent value tree hParent
  | .empty span => exact Tree.Grown.refl tree
  | .markup element =>
      exact plantMarkup_grown source parent element tree hParent
  | .spread span => exact Tree.Grown.refl tree

/- Code takes up the elements in it and leaves itself pending. -/
theorem plantCode_grown
    (source : List Char)
    (parent : NodeId)
    (code : Code Declaration)
    (tree : Tree String)
    (hParent : parent < tree.size) :
    tree.Grown (plantCode source parent code tree).2
      [(plantCode source parent code tree).1] := by
  match code with
  | .mk span pieces =>
      have hPieces :=
        plantPieces_grown source tree.size pieces
          (tree.push parent span (.code [])).2
          (Tree.lt_size_push tree parent span _)
      simp only [plantCode, Tree.addCode, Tree.setCode]
      refine hPieces.enclose hParent ?_ ?_ ?_
      · rfl
      · exact trivial
      · exact cutCode_targets source span _

end

------------------------------------------------------------
-- Modules
------------------------------------------------------------

namespace Outline

/- The span of a whole source text. -/
def moduleSpan (source : String) : Span :=
  Span.between 0 (Text.byteLength source.toList)

/- The elements that stand directly in a module, and their nodes. -/
def holes
    (source : String)
    (outline : Outline) : List Hole :=
  (plantPieces source.toList Tree.root outline.pieces
    (Tree.ofSpan (moduleSpan source))).1

/- The code of a module. -/
def rootNode
    (source : String)
    (outline : Outline) : Node String :=
  ⟨none, moduleSpan source,
    .code (cutCode source.toList (moduleSpan source)
      (outline.holes source))⟩

/-
  The arena of a module: its code, then a sprout whose pending
  nodes this code refers to.
-/
theorem plant_nodes
    (source : String)
    (outline : Outline) :
    ∃ added,
      (outline.plant source).nodes.toList =
          outline.rootNode source :: added ∧
        Sprout 1 added
          ((outline.holes source).map Hole.node) := by
  have hGrown :=
    plantPieces_grown source.toList Tree.root outline.pieces
      (Tree.ofSpan (moduleSpan source)) Nat.zero_lt_one
  rcases hGrown with ⟨added, hNodes, hSprout⟩
  refine ⟨added, ?_, hSprout⟩
  unfold moduleSpan at hNodes
  simp only [plant, Tree.setCode, Tree.setKind,
    Array.toList_modify, hNodes]
  rfl

/- The code of a module refers to all pending nodes. -/
theorem rootNode_targets
    (source : String)
    (outline : Outline) :
    (outline.rootNode source).kind.targets.Perm
      ((outline.holes source).map Hole.node) :=
  cutCode_targets source.toList (moduleSpan source) _

/- The node of a number, in terms of the sprout. -/
theorem get?_plant
    {source : String}
    {outline : Outline}
    {added : List (Node String)}
    (hNodes :
      (outline.plant source).nodes.toList =
        outline.rootNode source :: added)
    (id : NodeId) :
    (outline.plant source).get? id =
      (outline.rootNode source :: added)[id]? := by
  simp only [Tree.get?, ← Array.getElem?_toList, hNodes]

/- The first node of the arena of a module is its code. -/
theorem plant_root
    (source : String)
    (outline : Outline) :
    (outline.plant source).get? Tree.root =
      some (outline.rootNode source) := by
  rcases plant_nodes source outline with ⟨added, hNodes, _⟩
  exact get?_plant hNodes Tree.root

/-
  Every node is below an earlier one and refers to later ones
  only.
-/
theorem plant_ordered
    (source : String)
    (outline : Outline)
    {id : NodeId}
    {node : Node String}
    (hNode : (outline.plant source).get? id = some node) :
    (∀ parent, node.parent = some parent → parent < id) ∧
      (id ≠ Tree.root → node.parent ≠ none) ∧
      (∀ target ∈ node.kind.targets, id < target) ∧
      node.kind.Tidy := by
  rcases plant_nodes source outline with
    ⟨added, hNodes, hSprout⟩
  rw [get?_plant hNodes] at hNode
  cases id with
  | zero =>
      cases hNode
      refine ⟨?_, ?_, ?_, trivial⟩
      · intro parent hParent
        cases hParent
      · intro hRoot
        exact absurd rfl hRoot
      · intro target hTarget
        exact
          hSprout.le_of_pending
            ((rootNode_targets source outline).mem_iff.mp
              hTarget)
  | succ index =>
      rw [List.getElem?_cons_succ] at hNode
      rcases hSprout.parents index node hNode with
        ⟨parent, hParent, hLt⟩
      rw [Nat.add_comm] at hLt
      refine ⟨?_, ?_, ?_, ?_⟩
      · intro other hOther
        rw [hParent] at hOther
        cases hOther
        exact hLt
      · intro _ hNone
        rw [hParent] at hNone
        cases hNone
      · intro target hTarget
        have hLater :=
          hSprout.later index node hNode target hTarget
        rw [Nat.add_comm] at hLater
        exact hLater
      · exact hSprout.tidy node (List.mem_of_getElem? hNode)

/-
  The targets of all references are the pieces of code and the
  elements, each once, without the module itself.
-/
theorem plant_targets_perm
    {source : String}
    {outline : Outline}
    {added : List (Node String)}
    (hNodes :
      (outline.plant source).nodes.toList =
        outline.rootNode source :: added)
    (hSprout :
      Sprout 1 added ((outline.holes source).map Hole.node)) :
    (outline.plant source).targets.Perm (bearers 1 added) := by
  refine List.Perm.trans ?_ hSprout.owned
  unfold Tree.targets Tree.targetsFrom
  rw [List.drop_zero, hNodes, List.flatMap_cons]
  exact
    ((rootNode_targets source outline).append_right _).trans
      List.perm_append_comm

/- A node is referred to just if it is code or an element. -/
theorem mem_plant_targets_iff
    (source : String)
    (outline : Outline)
    (id : NodeId) :
    id ∈ (outline.plant source).targets ↔
      id ≠ Tree.root ∧
        (outline.plant source).bearsTokenAt id = true := by
  rcases plant_nodes source outline with
    ⟨added, hNodes, hSprout⟩
  rw [(plant_targets_perm hNodes hSprout).mem_iff,
    mem_bearers_iff, Tree.bearsTokenAt_iff]
  constructor
  · rintro ⟨index, node, hNode, hBears, hId⟩
    rw [Nat.add_comm] at hId
    subst hId
    refine ⟨Nat.succ_ne_zero index, node, ?_, hBears⟩
    rw [get?_plant hNodes]
    exact hNode
  · rintro ⟨hRoot, node, hNode, hBears⟩
    cases id with
    | zero => exact absurd rfl hRoot
    | succ index =>
        rw [get?_plant hNodes, List.getElem?_cons_succ] at hNode
        exact
          ⟨index, node, hNode, hBears, Nat.add_comm index 1⟩

theorem plant_targets_nodup
    (source : String)
    (outline : Outline) :
    (outline.plant source).targets.Nodup := by
  rcases plant_nodes source outline with
    ⟨added, hNodes, hSprout⟩
  exact
    (plant_targets_perm hNodes hSprout).nodup_iff.mpr
      (bearers_nodup 1 added)

/- The arena of any module is well-formed. -/
theorem plant_wellFormed
    (source : String)
    (outline : Outline) :
    (outline.plant source).WellFormed where
  later link hLink := by
    rcases (Tree.mem_links_iff _ link.1 link.2).mp hLink with
      ⟨node, hNode, hTarget⟩
    exact
      (plant_ordered source outline hNode).2.2.1 link.2 hTarget
  bears link hLink := by
    have hMember :
        link.2 ∈ (outline.plant source).targets :=
      (Tree.mem_targetsFrom_iff _ _ _).mpr
        ⟨link.1, Nat.zero_le _, hLink⟩
    exact
      ((mem_plant_targets_iff source outline link.2).mp
        hMember).2
  single := plant_targets_nodup source outline

theorem plant_rootIsCode
    (source : String)
    (outline : Outline) :
    (outline.plant source).RootIsCode :=
  ⟨_, _, plant_root source outline, rfl⟩

theorem plant_fresh
    (source : String)
    (outline : Outline) :
    (outline.plant source).Fresh := by
  intro id node hNode
  exact (plant_ordered source outline hNode).2.2.2.isFresh

end Outline

end MarkupLowering
