import MarkupLowering.Proofs.Tree.Arena
import Mathlib.Data.List.Nodup

/-
  This file defines the references of an arena: which nodes
  the parts of code, the values of attributes and the children
  of elements name, and when these references are in order.

  Key definitions include:
    * `NodeKind.targets`
    * `Tree.links`
    * `Tree.targetsFrom`
    * `Tree.WellFormed`

  Key theorems include:
    * `Tree.mem_links_iff`
    * `Tree.targetsFrom_eq`
    * `Tree.WellFormed.disjoint_targetsFrom`
-/

namespace MarkupLowering

------------------------------------------------------------
-- Targets
------------------------------------------------------------

variable {T : Type}

/- The node that a part of code refers to. -/
def CodePart.targets : CodePart T → List NodeId
  | .token _ => []
  | .node id => [id]

/- The node that the value of an attribute refers to. -/
def AttributeSlot.targets : AttributeSlot → List NodeId
  | .expression id => [id]
  | .spread id => [id]
  | .element id => [id]
  | _ => []

/- The node that a child refers to. -/
def ChildNode.targets : ChildNode → List NodeId
  | .expression id _ => [id]
  | .element id => [id]
  | _ => []

/- The nodes that an element refers to, attributes first. -/
def ElementNode.targets (element : ElementNode) : List NodeId :=
  element.attributes.flatMap (fun attr => attr.slot.targets)
    ++ element.children.flatMap ChildNode.targets

/- The nodes that a node refers to, in order. -/
def NodeKind.targets : NodeKind T → List NodeId
  | .code parts => parts.flatMap CodePart.targets
  | .element content => content.targets
  | _ => []

theorem NodeKind.targets_eq_nil
    {kind : NodeKind T}
    (hBears : kind.bearsToken = false) :
    kind.targets = [] := by
  cases kind with
  | code parts => cases hBears
  | element content => cases hBears
  | scope enclosure => rfl
  | lowered token => rfl
  | consumed => rfl

namespace Tree

/- All references: the node that refers and its target. -/
def links (tree : Tree T) : List (NodeId × NodeId) :=
  tree.nodes.toList.zipIdx.flatMap fun (node, id) =>
    node.kind.targets.map fun target => (id, target)

/- The targets of the references of all nodes from a number on. -/
def targetsFrom
    (tree : Tree T)
    (bound : NodeId) : List NodeId :=
  (tree.nodes.toList.drop bound).flatMap
    fun node => node.kind.targets

/- The targets of all references. -/
def targets (tree : Tree T) : List NodeId :=
  tree.targetsFrom 0

/- The node of a number exists and is code or an element. -/
def bearsTokenAt
    (tree : Tree T)
    (id : NodeId) : Bool :=
  match tree.get? id with
  | some node => node.kind.bearsToken
  | none => false

theorem bearsTokenAt_iff
    (tree : Tree T)
    (id : NodeId) :
    tree.bearsTokenAt id = true ↔
      ∃ node,
        tree.get? id = some node ∧
          node.kind.bearsToken = true := by
  unfold bearsTokenAt
  cases hNode : tree.get? id with
  | none => simp
  | some node => simp

theorem mem_links_iff
    (tree : Tree T)
    (id target : NodeId) :
    (id, target) ∈ tree.links ↔
      ∃ node,
        tree.get? id = some node ∧
          target ∈ node.kind.targets := by
  simp only [links, List.mem_flatMap, List.mem_map,
    Prod.mk.injEq, Prod.exists]
  constructor
  · rintro ⟨node, index, hNode, found, hFound, hIndex, rfl⟩
    subst hIndex
    have hGet := List.mem_zipIdx_iff_getElem?.mp hNode
    exact ⟨node, by simpa [get?] using hGet, hFound⟩
  · rintro ⟨node, hNode, hTarget⟩
    refine ⟨node, id, ?_, target, hTarget, rfl, rfl⟩
    apply List.mem_zipIdx_iff_getElem?.mpr
    simpa [get?] using hNode

------------------------------------------------------------
-- Targets of the Later Nodes
------------------------------------------------------------

/- What the nodes from a number on have, node by node. -/
theorem flatMap_drop_eq
    {tree : Tree T}
    {id : NodeId}
    {node : Node T}
    (pick : Node T → List NodeId)
    (hNode : tree.get? id = some node) :
    (tree.nodes.toList.drop id).flatMap pick =
      pick node ++
        (tree.nodes.toList.drop (id + 1)).flatMap pick := by
  rcases Array.getElem?_eq_some_iff.mp hNode with
    ⟨hLt, hGet⟩
  have hLength : id < tree.nodes.toList.length := by
    simpa using hLt
  rw [List.drop_eq_getElem_cons hLength, List.flatMap_cons]
  simp [hGet]

theorem targetsFrom_eq
    {tree : Tree T}
    {id : NodeId}
    {node : Node T}
    (hNode : tree.get? id = some node) :
    tree.targetsFrom id =
      node.kind.targets ++ tree.targetsFrom (id + 1) :=
  flatMap_drop_eq (fun node => node.kind.targets) hNode

theorem mem_targetsFrom_iff
    (tree : Tree T)
    (bound target : NodeId) :
    target ∈ tree.targetsFrom bound ↔
      ∃ id,
        bound ≤ id ∧ (id, target) ∈ tree.links := by
  simp only [targetsFrom, List.mem_flatMap]
  constructor
  · rintro ⟨node, hMember, hTarget⟩
    rcases List.mem_iff_getElem?.mp hMember with
      ⟨index, hIndex⟩
    rw [List.getElem?_drop] at hIndex
    refine ⟨bound + index, Nat.le_add_right _ _, ?_⟩
    exact (mem_links_iff _ _ _).mpr
      ⟨node, by simpa [get?] using hIndex, hTarget⟩
  · rintro ⟨id, hBound, hLink⟩
    rcases (mem_links_iff _ _ _).mp hLink with
      ⟨node, hNode, hTarget⟩
    refine ⟨node, ?_, hTarget⟩
    apply List.mem_iff_getElem?.mpr
    refine ⟨id - bound, ?_⟩
    rw [List.getElem?_drop, Nat.add_sub_cancel' hBound]
    simpa [get?] using hNode

theorem targets_eq_append
    (tree : Tree T)
    (bound : NodeId) :
    tree.targets =
      (tree.nodes.toList.take bound).flatMap
          (fun node => node.kind.targets)
        ++ tree.targetsFrom bound := by
  unfold targets targetsFrom
  rw [← List.flatMap_append, List.take_append_drop]
  rfl

------------------------------------------------------------
-- Well-Formed Arenas
------------------------------------------------------------

/-
  Every reference leads to a later node that is code or an
  element, and no two references lead to the same node.
-/
structure WellFormed (tree : Tree T) : Prop where
  later : ∀ link ∈ tree.links, link.1 < link.2
  bears : ∀ link ∈ tree.links, tree.bearsTokenAt link.2 = true
  single : tree.targets.Nodup

instance (tree : Tree T) : Decidable tree.WellFormed :=
  decidable_of_iff
    ((∀ link ∈ tree.links, link.1 < link.2) ∧
      (∀ link ∈ tree.links,
        tree.bearsTokenAt link.2 = true) ∧
      tree.targets.Nodup)
    ⟨fun h => ⟨h.1, h.2.1, h.2.2⟩,
      fun h => ⟨h.later, h.bears, h.single⟩⟩

namespace WellFormed

variable {tree : Tree T}

theorem lt_target
    (hWell : tree.WellFormed)
    {id target : NodeId}
    {node : Node T}
    (hNode : tree.get? id = some node)
    (hTarget : target ∈ node.kind.targets) :
    id < target :=
  hWell.later (id, target)
    ((mem_links_iff _ _ _).mpr ⟨node, hNode, hTarget⟩)

theorem target_bears
    (hWell : tree.WellFormed)
    {id target : NodeId}
    {node : Node T}
    (hNode : tree.get? id = some node)
    (hTarget : target ∈ node.kind.targets) :
    tree.bearsTokenAt target = true :=
  hWell.bears (id, target)
    ((mem_links_iff _ _ _).mpr ⟨node, hNode, hTarget⟩)

theorem targetsFrom_nodup
    (hWell : tree.WellFormed)
    (bound : NodeId) :
    (tree.targetsFrom bound).Nodup := by
  have hNodup := hWell.single
  rw [targets_eq_append tree bound] at hNodup
  exact (List.nodup_append.mp hNodup).2.1

theorem targets_nodup
    (hWell : tree.WellFormed)
    {id : NodeId}
    {node : Node T}
    (hNode : tree.get? id = some node) :
    node.kind.targets.Nodup := by
  have hNodup := hWell.targetsFrom_nodup id
  rw [targetsFrom_eq hNode] at hNodup
  exact (List.nodup_append.mp hNodup).1

/- What a node refers to, no later node refers to. -/
theorem disjoint_targetsFrom
    (hWell : tree.WellFormed)
    {id target : NodeId}
    {node : Node T}
    (hNode : tree.get? id = some node)
    (hTarget : target ∈ node.kind.targets) :
    target ∉ tree.targetsFrom (id + 1) := by
  intro hLater
  have hNodup := hWell.targetsFrom_nodup id
  rw [targetsFrom_eq hNode] at hNodup
  exact
    (List.nodup_append.mp hNodup).2.2
      target hTarget target hLater rfl

/- No node refers to one before it, nor to itself. -/
theorem not_mem_targetsFrom
    (hWell : tree.WellFormed)
    {id bound : NodeId}
    (hLe : id ≤ bound) :
    id ∉ tree.targetsFrom bound := by
  intro hMember
  rcases (mem_targetsFrom_iff _ _ _).mp hMember with
    ⟨other, hBound, hLink⟩
  have hLt : other < id := hWell.later _ hLink
  exact
    Nat.lt_irrefl other
      (Nat.lt_of_lt_of_le hLt (Nat.le_trans hLe hBound))

end WellFormed

end Tree

end MarkupLowering
