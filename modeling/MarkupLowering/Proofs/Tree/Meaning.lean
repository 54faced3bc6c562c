import MarkupLowering.Proofs.Tree.Links
import MarkupLowering.Tree.Lower

/-
  This file defines what a node means, by recursion along the
  references: the token that lowering should put in its place.

  Code means its parts joined in order.  An element means the
  call that it is lowered to, once every reference in it is
  replaced by the meaning of its target, in the scope that the
  node has in the arena as it was built.  Nothing here depends
  on an order of nodes or on tokens being moved.

  Key definitions include:
    * `ElementNode.withTokens`
    * `NodeKind.meaning`
    * `Tree.meaning`

  Key theorems include:
    * `NodeKind.meaning_congr`
    * `Tree.WellFormed.meaning_eq`
-/

namespace MarkupLowering

variable {T : Type}

------------------------------------------------------------
-- Results
------------------------------------------------------------

/- A mapped result is there just if the result is. -/
theorem exists_of_map_eq_ok
    {α β ε : Type}
    {result : Except ε α}
    {f : α → β}
    {value : β}
    (hValue : result.map f = .ok value) :
    ∃ first, result = .ok first ∧ value = f first := by
  cases result with
  | error error => cases hValue
  | ok first =>
      cases hValue
      exact ⟨first, rfl, rfl⟩

/- Both of two steps succeed if the steps together do. -/
theorem exists_of_bind_eq_ok
    {α β ε : Type}
    {result : Except ε α}
    {next : α → Except ε β}
    {value : β}
    (hValue : result >>= next = .ok value) :
    ∃ first, result = .ok first ∧ next first = .ok value := by
  cases result with
  | error error => cases hValue
  | ok first => exact ⟨first, rfl, hValue⟩

/- One of two steps fails if the steps together do. -/
theorem error_or_of_bind_eq_error
    {α β ε : Type}
    {result : Except ε α}
    {next : α → Except ε β}
    {error : ε}
    (hError : result >>= next = .error error) :
    result = .error error ∨
      ∃ first, result = .ok first ∧ next first = .error error := by
  cases result with
  | error cause =>
      cases hError
      exact Or.inl rfl
  | ok first => exact Or.inr ⟨first, rfl, hError⟩

------------------------------------------------------------
-- References Replaced by Tokens
------------------------------------------------------------

/- The token of a part of code. -/
def CodePart.withTokens
    (tokenOf : NodeId → Except LowerError T) :
    CodePart T → Except LowerError T
  | .token text => .ok text
  | .node id => tokenOf id

/- An attribute with the token of what it refers to. -/
def AttributeNode.withTokens
    (tokenOf : NodeId → Except LowerError T)
    (attr : AttributeNode) : Except LowerError (Attribute T) :=
  let named (value : AttributeValue T) : Attribute T :=
    .named ⟨attr.name.getD "", value, attr.span⟩
  match attr.slot with
  | .absent => .ok (named .absent)
  | .text value => .ok (named (.text value))
  | .empty => .ok (named .empty)
  | .other kind => .ok (named (.other kind))
  | .expression id =>
      (tokenOf id).map fun token => named (.expression token)
  | .element id =>
      (tokenOf id).map fun token => named (.element token)
  | .spread id =>
      (tokenOf id).map fun token => .spread token attr.span

/- A child with the token of what it refers to. -/
def ChildNode.withTokens
    (spanOf : NodeId → Span)
    (tokenOf : NodeId → Except LowerError T) :
    ChildNode → Except LowerError (Child T)
  | .text value span => .ok (.text value span)
  | .other kind span => .ok (.other kind span)
  | .expression id span =>
      (tokenOf id).map fun token => .expression token span
  | .element id =>
      (tokenOf id).map fun token => .lowered token (spanOf id)

/- An element with the tokens of what it refers to. -/
def ElementNode.withTokens
    (spanOf : NodeId → Span)
    (tokenOf : NodeId → Except LowerError T)
    (span : Span)
    (element : ElementNode) : Except LowerError (Element T) := do
  let attributes ←
    element.attributes.mapM (AttributeNode.withTokens tokenOf)
  let children ←
    element.children.mapM (ChildNode.withTokens spanOf tokenOf)
  return ⟨element.tag, attributes, children,
    element.hasClosingTag, span⟩

------------------------------------------------------------
-- Meaning
------------------------------------------------------------

/- The report on a node that means nothing. -/
def meaningless (id : NodeId) : LowerError :=
  .unplaced (.notYetLowered ("#" ++ toString id))

/- What a node means, given what its targets mean. -/
def NodeKind.meaning
    (host : Host T)
    (config : Config T)
    (scope : Scope)
    (span : Span)
    (spanOf : NodeId → Span)
    (tokenOf : NodeId → Except LowerError T)
    (id : NodeId) :
    NodeKind T → Except LowerError T
  | .code parts =>
      (parts.mapM (CodePart.withTokens tokenOf)).map host.splice
  | .element content => do
      let resolved ← content.withTokens spanOf tokenOf span
      let lowered ← resolved.lower config scope
      return host.emit lowered
  | _ => .error (meaningless id)

namespace Tree

/- The place of a node. -/
def spanOf
    (tree : Tree T)
    (id : NodeId) : Span :=
  ((tree.get? id).map Node.span).getD Span.zero

theorem spanOf_eq
    {tree : Tree T}
    {id : NodeId}
    {node : Node T}
    (hNode : tree.get? id = some node) :
    tree.spanOf id = node.span := by
  unfold spanOf
  rw [hNode]
  rfl

/-
  What a node means.  References that lead back, to the node
  itself or nowhere mean nothing.
-/
def meaning
    (host : Host T)
    (config : Config T)
    (tree : Tree T)
    (id : NodeId) : Except LowerError T :=
  match tree.get? id with
  | none => .error (meaningless id)
  | some node =>
      node.kind.meaning host config (tree.scopeOf id)
        node.span tree.spanOf
        (fun target =>
          if _hLater : id < target ∧ target < tree.size then
            tree.meaning host config target
          else
            .error (meaningless target))
        id
termination_by tree.size - id
decreasing_by
  exact Nat.sub_lt_sub_left
    (Nat.lt_trans _hLater.1 _hLater.2) _hLater.1

end Tree

------------------------------------------------------------
-- Dependence on the Targets
------------------------------------------------------------

section Congruence

variable {first second : NodeId → Except LowerError T}

/- Two lists that agree item by item are read alike. -/
private theorem mapM_congr_targets
    {α β : Type}
    {read read' : α → Except LowerError β}
    {targetsOf : α → List NodeId}
    (hRead :
      ∀ item,
        (∀ id ∈ targetsOf item, first id = second id) →
          read item = read' item)
    (items : List α)
    (hAgree :
      ∀ id ∈ items.flatMap targetsOf, first id = second id) :
    items.mapM read = items.mapM read' := by
  induction items with
  | nil => rfl
  | cons item items ih =>
      have hHead : read item = read' item := by
        apply hRead
        intro id hId
        exact hAgree id (by simp [hId])
      have hTail : items.mapM read = items.mapM read' := by
        apply ih
        intro id hId
        exact hAgree id (by
          rw [List.flatMap_cons, List.mem_append]
          exact Or.inr hId)
      rw [List.mapM_cons, List.mapM_cons, hHead, hTail]

theorem CodePart.withTokens_congr
    (part : CodePart T)
    (hAgree : ∀ id ∈ part.targets, first id = second id) :
    part.withTokens first = part.withTokens second := by
  cases part with
  | token token => rfl
  | node id => exact hAgree id (by simp [targets])

theorem AttributeNode.withTokens_congr
    (attr : AttributeNode)
    (hAgree :
      ∀ id ∈ attr.slot.targets, first id = second id) :
    attr.withTokens first = attr.withTokens second := by
  rcases attr with ⟨name, slot, span⟩
  cases slot with
  | absent => rfl
  | text value => rfl
  | empty => rfl
  | other kind => rfl
  | expression id =>
      have hId := hAgree id (by simp [AttributeSlot.targets])
      simp only [withTokens, hId]
  | element id =>
      have hId := hAgree id (by simp [AttributeSlot.targets])
      simp only [withTokens, hId]
  | spread id =>
      have hId := hAgree id (by simp [AttributeSlot.targets])
      simp only [withTokens, hId]

theorem ChildNode.withTokens_congr
    (spanOf : NodeId → Span)
    (child : ChildNode)
    (hAgree : ∀ id ∈ child.targets, first id = second id) :
    child.withTokens spanOf first =
      child.withTokens spanOf second := by
  cases child with
  | text value span => rfl
  | other kind span => rfl
  | expression id span =>
      have hId := hAgree id (by simp [targets])
      simp only [withTokens, hId]
  | element id =>
      have hId := hAgree id (by simp [targets])
      simp only [withTokens, hId]

theorem ElementNode.withTokens_congr
    (spanOf : NodeId → Span)
    (span : Span)
    (element : ElementNode)
    (hAgree : ∀ id ∈ element.targets, first id = second id) :
    element.withTokens spanOf first span =
      element.withTokens spanOf second span := by
  have hAttributes :=
    mapM_congr_targets AttributeNode.withTokens_congr
      element.attributes
      (fun id hId =>
        hAgree id (List.mem_append_left _ hId))
  have hChildren :=
    mapM_congr_targets (ChildNode.withTokens_congr spanOf)
      element.children
      (fun id hId =>
        hAgree id (List.mem_append_right _ hId))
  unfold withTokens
  rw [hAttributes, hChildren]

/- The meaning of a node depends on its targets only. -/
theorem NodeKind.meaning_congr
    (host : Host T)
    (config : Config T)
    (scope : Scope)
    (span : Span)
    (spanOf : NodeId → Span)
    (id : NodeId)
    (kind : NodeKind T)
    (hAgree :
      ∀ target ∈ kind.targets, first target = second target) :
    kind.meaning host config scope span spanOf first id =
      kind.meaning host config scope span spanOf second id := by
  cases kind with
  | code parts =>
      have hParts :=
        mapM_congr_targets CodePart.withTokens_congr
          parts hAgree
      simp only [meaning, hParts]
  | element content =>
      have hContent :=
        content.withTokens_congr spanOf span hAgree
      simp only [meaning, hContent]
  | scope enclosure => rfl
  | lowered token => rfl
  | consumed => rfl

end Congruence

------------------------------------------------------------
-- Meaning in Well-Formed Arenas
------------------------------------------------------------

namespace Tree

variable {tree : Tree T}

/- A node means what its kind makes of the targets' meanings. -/
theorem WellFormed.meaning_eq
    (hWell : tree.WellFormed)
    (host : Host T)
    (config : Config T)
    {id : NodeId}
    {node : Node T}
    (hNode : tree.get? id = some node) :
    tree.meaning host config id =
      node.kind.meaning host config (tree.scopeOf id)
        node.span tree.spanOf (tree.meaning host config) id := by
  rw [meaning]
  simp only [hNode]
  apply NodeKind.meaning_congr
  intro target hTarget
  have hLater : id < target := hWell.lt_target hNode hTarget
  have hBears := hWell.target_bears hNode hTarget
  rcases (bearsTokenAt_iff _ _).mp hBears with
    ⟨other, hOther, _⟩
  exact dif_pos ⟨hLater, lt_size_of_get? hOther⟩

end Tree

end MarkupLowering
