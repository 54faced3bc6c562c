import MarkupLowering.Proofs.Tree.Meaning

/-
  This file says what taking tokens out of an arena gives.

  A list of nodes is ready when they are all different and
  each holds the token that is expected of it.  Whatever
  refers to ready nodes gets just these tokens, and the nodes
  are consumed.

  Key definitions include:
    * `Tree.consumeAll`
    * `Tree.Ready`

  Key theorems include:
    * `Tree.takeParts_ready`
    * `Tree.takeElement_ready`
-/

namespace MarkupLowering

namespace Tree

variable {T : Type}

------------------------------------------------------------
-- Consumed Nodes
------------------------------------------------------------

/- Consume nodes one after the other. -/
def consumeAll
    (tree : Tree T)
    (ids : List NodeId) : Tree T :=
  ids.foldl (fun tree id => tree.setKind id .consumed) tree

theorem consumeAll_cons
    (tree : Tree T)
    (id : NodeId)
    (ids : List NodeId) :
    tree.consumeAll (id :: ids) =
      (tree.setKind id .consumed).consumeAll ids := rfl

theorem consumeAll_append
    (tree : Tree T)
    (first second : List NodeId) :
    tree.consumeAll (first ++ second) =
      (tree.consumeAll first).consumeAll second := by
  simp [consumeAll, List.foldl_append]

/- Other nodes stay as they are. -/
theorem get?_consumeAll
    (tree : Tree T)
    {ids : List NodeId}
    {id : NodeId}
    (hNotMem : id ∉ ids) :
    (tree.consumeAll ids).get? id = tree.get? id := by
  induction ids generalizing tree with
  | nil => rfl
  | cons first ids ih =>
      rw [List.mem_cons, not_or] at hNotMem
      rw [consumeAll_cons, ih _ hNotMem.2]
      exact get?_setKind_ne tree _ (Ne.symm hNotMem.1)

------------------------------------------------------------
-- Ready Nodes
------------------------------------------------------------

/-
  Different nodes that hold the tokens and have the places
  that are expected of them.
-/
structure Ready
    (spanOf : NodeId → Span)
    (tokenOf : NodeId → Except LowerError T)
    (tree : Tree T)
    (ids : List NodeId) : Prop where
  nodup : ids.Nodup
  holds :
    ∀ id ∈ ids,
      ∃ node token,
        tree.get? id = some node ∧
          node.kind = .lowered token ∧
          node.span = spanOf id ∧
          tokenOf id = .ok token

section Taking

variable {spanOf : NodeId → Span}
variable {tokenOf : NodeId → Except LowerError T}

namespace Ready

theorem left
    {tree : Tree T}
    {first second : List NodeId}
    (hReady : Ready spanOf tokenOf tree (first ++ second)) :
    Ready spanOf tokenOf tree first where
  nodup := (List.nodup_append.mp hReady.nodup).1
  holds id hId :=
    hReady.holds id (List.mem_append_left second hId)

/- The nodes that come later stay ready. -/
theorem right
    {tree : Tree T}
    {first second : List NodeId}
    (hReady : Ready spanOf tokenOf tree (first ++ second)) :
    Ready spanOf tokenOf (tree.consumeAll first) second where
  nodup := (List.nodup_append.mp hReady.nodup).2.1
  holds id hId := by
    have hNotMem : id ∉ first := by
      intro hFirst
      exact
        (List.nodup_append.mp hReady.nodup).2.2
          id hFirst id hId rfl
    rw [get?_consumeAll tree hNotMem]
    exact hReady.holds id (List.mem_append_right first hId)

/- Consuming ready nodes touches no declaration. -/
theorem sameFrame
    {tree : Tree T}
    {ids : List NodeId}
    (hReady : Ready spanOf tokenOf tree ids) :
    (tree.consumeAll ids).SameFrame tree := by
  induction ids generalizing tree with
  | nil => exact SameFrame.refl tree
  | cons id ids ih =>
      have hSplit :
          Ready spanOf tokenOf tree ([id] ++ ids) := hReady
      rcases hReady.holds id List.mem_cons_self with
        ⟨node, token, hNode, hKind, _, _⟩
      have hStep :
          (tree.setKind id .consumed).SameFrame tree :=
        SameFrame.setKind hNode (by rw [hKind]; rfl) rfl
      exact (ih hSplit.right).trans hStep

end Ready

------------------------------------------------------------
-- Single Tokens
------------------------------------------------------------

/- A ready node gives its token. -/
theorem take_ready
    {tree : Tree T}
    {id : NodeId}
    (hReady : Ready spanOf tokenOf tree [id])
    (referrer : Span) :
    ∃ token,
      tokenOf id = .ok token ∧
        tree.take id referrer =
          .ok (token, tree.consumeAll [id]) := by
  rcases hReady.holds id List.mem_cons_self with
    ⟨node, token, hNode, hKind, _, hToken⟩
  refine ⟨token, hToken, ?_⟩
  simp only [take, hNode, hKind]
  rfl

/- Take the token of a part of code. -/
def takePart
    (referrer : Span)
    (tree : Tree T) :
    CodePart T → Except LowerError (T × Tree T)
  | .token text => .ok (text, tree)
  | .node id => tree.take id referrer

theorem takePart_ready
    {tree : Tree T}
    (referrer : Span)
    (part : CodePart T)
    (hReady : Ready spanOf tokenOf tree part.targets) :
    ∃ token,
      part.withTokens tokenOf = .ok token ∧
        tree.takePart referrer part =
          .ok (token, tree.consumeAll part.targets) := by
  cases part with
  | token text => exact ⟨text, rfl, rfl⟩
  | node id => exact take_ready hReady referrer

theorem takeAttribute_ready
    {tree : Tree T}
    (attr : AttributeNode)
    (hReady : Ready spanOf tokenOf tree attr.slot.targets) :
    ∃ value,
      attr.withTokens tokenOf = .ok value ∧
        tree.takeAttribute attr =
          .ok (value, tree.consumeAll attr.slot.targets) := by
  rcases attr with ⟨name, slot, span⟩
  cases slot with
  | absent => exact ⟨_, rfl, rfl⟩
  | text value => exact ⟨_, rfl, rfl⟩
  | empty => exact ⟨_, rfl, rfl⟩
  | other kind => exact ⟨_, rfl, rfl⟩
  | expression id =>
      rcases take_ready hReady span with
        ⟨token, hToken, hTake⟩
      refine
        ⟨.named ⟨name.getD "", .expression token, span⟩, ?_, ?_⟩
      · simp only [AttributeNode.withTokens, hToken]
        rfl
      · simp only [takeAttribute, hTake]
        rfl
  | element id =>
      rcases take_ready hReady span with
        ⟨token, hToken, hTake⟩
      refine
        ⟨.named ⟨name.getD "", .element token, span⟩, ?_, ?_⟩
      · simp only [AttributeNode.withTokens, hToken]
        rfl
      · simp only [takeAttribute, hTake]
        rfl
  | spread id =>
      rcases take_ready hReady span with
        ⟨token, hToken, hTake⟩
      refine ⟨.spread token span, ?_, ?_⟩
      · simp only [AttributeNode.withTokens, hToken]
        rfl
      · simp only [takeAttribute, hTake]
        rfl

theorem takeChild_ready
    {tree : Tree T}
    (referrer : Span)
    (child : ChildNode)
    (hReady : Ready spanOf tokenOf tree child.targets) :
    ∃ value,
      child.withTokens spanOf tokenOf = .ok value ∧
        tree.takeChild referrer child =
          .ok (value, tree.consumeAll child.targets) := by
  cases child with
  | text value span => exact ⟨_, rfl, rfl⟩
  | other kind span => exact ⟨_, rfl, rfl⟩
  | expression id span =>
      rcases take_ready hReady span with
        ⟨token, hToken, hTake⟩
      refine ⟨.expression token span, ?_, ?_⟩
      · simp only [ChildNode.withTokens, hToken]
        rfl
      · simp only [takeChild, hTake]
        rfl
  | element id =>
      rcases hReady.holds id List.mem_cons_self with
        ⟨node, token, hNode, hKind, hSpan, hToken⟩
      refine ⟨.lowered token (spanOf id), ?_, ?_⟩
      · simp only [ChildNode.withTokens, hToken]
        rfl
      · simp only [takeChild, hNode, hKind, hSpan]
        rfl

------------------------------------------------------------
-- Many Tokens
------------------------------------------------------------

/-
  Reading item by item takes all tokens, if a single item
  takes its own.  The nodes of the later items stay ready
  while those of the earlier ones are consumed.
-/
private theorem takeEach_ready
    {α β : Type}
    {targetsOf : α → List NodeId}
    {read : α → Except LowerError β}
    (takeOne : Tree T → α → Except LowerError (β × Tree T))
    (takeEach :
      Tree T → List α → Except LowerError (List β × Tree T))
    (hNil : ∀ tree, takeEach tree [] = .ok ([], tree))
    (hCons :
      ∀ tree item items,
        takeEach tree (item :: items) = do
          let (value, tree) ← takeOne tree item
          let (values, tree) ← takeEach tree items
          return (value :: values, tree))
    (hOne :
      ∀ tree item,
        Ready spanOf tokenOf tree (targetsOf item) →
          ∃ value,
            read item = .ok value ∧
              takeOne tree item =
                .ok (value, tree.consumeAll (targetsOf item)))
    (items : List α)
    (tree : Tree T)
    (hReady :
      Ready spanOf tokenOf tree (items.flatMap targetsOf)) :
    ∃ values,
      items.mapM read = .ok values ∧
        takeEach tree items =
          .ok (values,
            tree.consumeAll (items.flatMap targetsOf)) := by
  induction items generalizing tree with
  | nil => exact ⟨[], rfl, hNil tree⟩
  | cons item items ih =>
      rw [List.flatMap_cons] at hReady ⊢
      rcases hOne tree item hReady.left with
        ⟨value, hRead, hTake⟩
      rcases ih _ hReady.right with
        ⟨values, hReads, hTakes⟩
      refine ⟨value :: values, ?_, ?_⟩
      · rw [List.mapM_cons, hRead, hReads]
        rfl
      · rw [hCons, hTake, consumeAll_append]
        simp only [bind, Except.bind, hTakes]
        rfl

/- Code gets the tokens of the nodes it refers to. -/
theorem takeParts_ready
    {tree : Tree T}
    (referrer : Span)
    (parts : List (CodePart T))
    (hReady :
      Ready spanOf tokenOf tree
        (parts.flatMap CodePart.targets)) :
    ∃ tokens,
      parts.mapM (CodePart.withTokens tokenOf) = .ok tokens ∧
        tree.takeParts referrer parts =
          .ok (tokens,
            tree.consumeAll
              (parts.flatMap CodePart.targets)) := by
  apply takeEach_ready (takePart referrer)
    (takeParts referrer) _ _ _ parts tree hReady
  · intro tree
    rfl
  · intro tree part rest
    cases part <;> rfl
  · intro tree part hPart
    exact takePart_ready referrer part hPart

/- An element gets the tokens of the nodes it refers to. -/
theorem takeElement_ready
    {tree : Tree T}
    (span : Span)
    (element : ElementNode)
    (hReady : Ready spanOf tokenOf tree element.targets) :
    ∃ resolved,
      element.withTokens spanOf tokenOf span = .ok resolved ∧
        tree.takeElement span element =
          .ok (resolved, tree.consumeAll element.targets) := by
  rcases
      takeEach_ready takeAttribute takeAttributes
        (fun _ => rfl) (fun _ _ _ => rfl)
        (fun _ => takeAttribute_ready)
        element.attributes tree hReady.left with
    ⟨attributes, hAttributes, hTakeAttributes⟩
  rcases
      takeEach_ready (takeChild span) (takeChildren span)
        (fun _ => rfl) (fun _ _ _ => rfl)
        (fun _ => takeChild_ready span)
        element.children _ hReady.right with
    ⟨children, hChildren, hTakeChildren⟩
  refine
    ⟨⟨element.tag, attributes, children,
      element.hasClosingTag, span⟩, ?_, ?_⟩
  · simp only [ElementNode.withTokens, hAttributes, hChildren]
    rfl
  · simp only [takeElement, hTakeAttributes, bind, Except.bind,
      hTakeChildren, ElementNode.targets, consumeAll_append]
    rfl

end Taking

end Tree

end MarkupLowering
