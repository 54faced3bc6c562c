import MarkupLowering.Proofs.Template.Refusal
import MarkupLowering.Proofs.Tree.Refinement

/-
  This file says what lowering a node does to an arbitrary
  arena, whose references may lead back, nowhere, or to the
  same node more than once.

  A node that is lowered spends the tokens of other nodes.
  These are all different and held their tokens before.  Among
  them are all the nodes that it needs: everything it refers
  to, except that a component does without its child elements.

  Key definitions include:
    * `NodeKind.needs`
    * `Tree.HoldsToken`
    * `Tree.Spends`
    * `Tree.StageOf`
    * `Tree.TakesEach`
    * `Tree.Steps`

  Key theorems include:
    * `Tree.Spends.trans`
    * `Tree.TakesEach.spends`
    * `Tree.takeElement_spends`
    * `Tree.steps_of_lowerNode`
-/

namespace MarkupLowering

variable {T : Type}

------------------------------------------------------------
-- Needs
------------------------------------------------------------

/- The node that a child of an element needs. -/
def ChildNode.needs
    (isComponent : Bool) : ChildNode → List NodeId
  | .expression id _ => [id]
  | .element id => if isComponent then [] else [id]
  | _ => []

/- The nodes that an element cannot be lowered without. -/
def ElementNode.needs (element : ElementNode) : List NodeId :=
  element.attributes.flatMap (fun attr => attr.slot.targets)
    ++ element.children.flatMap
      (ChildNode.needs element.tag.isComponent)

/- The nodes that a node cannot be lowered without. -/
def NodeKind.needs : NodeKind T → List NodeId
  | .code parts => parts.flatMap CodePart.targets
  | .element content => content.needs
  | _ => []

theorem NodeKind.needs_eq_nil
    {kind : NodeKind T}
    (hBears : kind.bearsToken = false) :
    kind.needs = [] := by
  cases kind with
  | code parts => cases hBears
  | element content => cases hBears
  | scope enclosure => rfl
  | lowered token => rfl
  | consumed => rfl

/- Only components do without something they refer to. -/
theorem NodeKind.mem_needs_or
    {kind : NodeKind T}
    {target : NodeId}
    (hTarget : target ∈ kind.targets) :
    target ∈ kind.needs ∨
      ∃ content,
        kind = .element content ∧
          content.tag.isComponent = true ∧
          .element target ∈ content.children := by
  cases kind with
  | scope enclosure => cases hTarget
  | lowered token => cases hTarget
  | consumed => cases hTarget
  | code parts => exact Or.inl hTarget
  | element content =>
      rcases List.mem_append.mp hTarget with hAttr | hChild
      · exact Or.inl (List.mem_append_left _ hAttr)
      · rcases List.mem_flatMap.mp hChild with
          ⟨child, hMember, hNamed⟩
        have hNeeds :
            target ∈ child.needs content.tag.isComponent →
              target ∈ content.needs := by
          intro hNeeded
          exact
            List.mem_append_right _
              (List.mem_flatMap.mpr ⟨child, hMember, hNeeded⟩)
        cases child with
        | text value span => cases hNamed
        | other kind span => cases hNamed
        | expression id span => exact Or.inl (hNeeds hNamed)
        | element id =>
            cases hComponent : content.tag.isComponent with
            | false =>
                rw [hComponent] at hNeeds
                exact Or.inl (hNeeds hNamed)
            | true =>
                rw [List.mem_singleton.mp hNamed]
                exact
                  Or.inr ⟨content, rfl, hComponent, hMember⟩

namespace Tree

------------------------------------------------------------
-- Held Tokens
------------------------------------------------------------

/- The node of a number has been lowered and not been taken. -/
def HoldsToken
    (tree : Tree T)
    (id : NodeId) : Prop :=
  ∃ node token,
    tree.get? id = some node ∧ node.kind = .lowered token

/- A consumed node keeps its frame and holds nothing. -/
theorem get?_consumeAll_of_mem
    (tree : Tree T)
    {ids : List NodeId}
    {id : NodeId}
    (hMember : id ∈ ids) :
    (tree.consumeAll ids).get? id =
      (tree.get? id).map
        fun node => { node with kind := .consumed } := by
  induction ids generalizing tree with
  | nil => cases hMember
  | cons first ids ih =>
      rw [consumeAll_cons]
      by_cases hRest : id ∈ ids
      · rw [ih _ hRest, get?_setKind]
        split
        · rw [Option.map_map]
          rfl
        · rfl
      · have hFirst : first = id :=
          ((List.mem_cons.mp hMember).resolve_right hRest).symm
        rw [get?_consumeAll _ hRest, get?_setKind,
          if_pos hFirst]

/- Consuming nodes takes their tokens and no others. -/
theorem holdsToken_consumeAll_iff
    (tree : Tree T)
    (ids : List NodeId)
    (id : NodeId) :
    (tree.consumeAll ids).HoldsToken id ↔
      tree.HoldsToken id ∧ id ∉ ids := by
  by_cases hMember : id ∈ ids
  · refine ⟨?_, fun hBoth => absurd hMember hBoth.2⟩
    rintro ⟨held, token, hHeld, hKind⟩
    rw [get?_consumeAll_of_mem tree hMember] at hHeld
    rcases Option.map_eq_some_iff.mp hHeld with
      ⟨node, _, hConsumed⟩
    rw [← hConsumed] at hKind
    cases hKind
  · unfold HoldsToken
    rw [get?_consumeAll tree hMember]
    exact ⟨fun hHeld => ⟨hHeld, hMember⟩, And.left⟩

------------------------------------------------------------
-- Spending
------------------------------------------------------------

/-
  Different nodes that hold tokens are consumed, and nothing
  else happens.
-/
structure Spends
    (tree : Tree T)
    (ids : List NodeId)
    (next : Tree T) : Prop where
  nodup : ids.Nodup
  held : ∀ id ∈ ids, tree.HoldsToken id
  result : next = tree.consumeAll ids

namespace Spends

variable {tree middle next : Tree T}
variable {first second ids : List NodeId}
variable {id : NodeId}

theorem nothing (tree : Tree T) : Spends tree [] tree where
  nodup := List.nodup_nil
  held id hId := by cases hId
  result := rfl

theorem single
    (hHeld : tree.HoldsToken id) :
    Spends tree [id] (tree.setKind id .consumed) where
  nodup := List.nodup_singleton id
  held other hOther := by
    rw [List.mem_singleton.mp hOther]
    exact hHeld
  result := rfl

/- What is spent cannot be spent again. -/
theorem trans
    (hFirst : Spends tree first middle)
    (hSecond : Spends middle second next) :
    Spends tree (first ++ second) next := by
  have hApart :
      ∀ id ∈ second, tree.HoldsToken id ∧ id ∉ first := by
    intro id hId
    have hHeld := hSecond.held id hId
    rw [hFirst.result] at hHeld
    exact (holdsToken_consumeAll_iff tree first id).mp hHeld
  refine ⟨?_, ?_, ?_⟩
  · refine
      List.nodup_append.mpr
        ⟨hFirst.nodup, hSecond.nodup, ?_⟩
    intro left hLeft right hRight hSame
    subst hSame
    exact (hApart left hRight).2 hLeft
  · intro id hId
    rcases List.mem_append.mp hId with hLeft | hRight
    · exact hFirst.held id hLeft
    · exact (hApart id hRight).1
  · rw [hSecond.result, hFirst.result, consumeAll_append]

end Spends

------------------------------------------------------------
-- Stages
------------------------------------------------------------

/-
  An arena that lowering may have made of another one: all
  nodes keep their frames, and a node that is still an element
  has not been touched.
-/
structure StageOf (now tree : Tree T) : Prop where
  frame : now.SameFrame tree
  raw :
    ∀ id node,
      now.get? id = some node →
      node.kind.isElement = true →
        tree.get? id = some node

namespace StageOf

variable {first second third : Tree T}
variable {id : NodeId}

theorem refl (tree : Tree T) : tree.StageOf tree where
  frame := SameFrame.refl tree
  raw _ _ hNode _ := hNode

theorem trans
    (hFirst : first.StageOf second)
    (hSecond : second.StageOf third) :
    first.StageOf third where
  frame := hFirst.frame.trans hSecond.frame
  raw id node hNode hElement :=
    hSecond.raw id node (hFirst.raw id node hNode hElement)
      hElement

theorem setKind
    {tree : Tree T}
    {node : Node T}
    {kind : NodeKind T}
    (hNode : tree.get? id = some node)
    (hOld : node.kind.enclosure? = none)
    (hNew : kind.enclosure? = none)
    (hKind : kind.isElement = false) :
    (tree.setKind id kind).StageOf tree where
  frame := SameFrame.setKind hNode hOld hNew
  raw other held hHeld hElement := by
    rw [get?_setKind] at hHeld
    split at hHeld
    · rcases Option.map_eq_some_iff.mp hHeld with
        ⟨old, _, hSet⟩
      rw [← hSet, hKind] at hElement
      cases hElement
    · exact hHeld

end StageOf

/- Spending touches neither declarations nor elements. -/
theorem Spends.stageOf
    {tree next : Tree T}
    {ids : List NodeId}
    (hSpends : Spends tree ids next) :
    next.StageOf tree := by
  rw [hSpends.result]
  refine ⟨?_, ?_⟩
  · intro id
    by_cases hMember : id ∈ ids
    · rcases hSpends.held id hMember with
        ⟨node, token, hNode, hKind⟩
      rw [get?_consumeAll_of_mem tree hMember, hNode]
      simp [Node.frame, Node.enclosure?_eq, hKind,
        NodeKind.enclosure?]
    · rw [get?_consumeAll tree hMember]
  · intro id node hNode hElement
    by_cases hMember : id ∈ ids
    · rw [get?_consumeAll_of_mem tree hMember] at hNode
      rcases Option.map_eq_some_iff.mp hNode with
        ⟨old, _, hConsumed⟩
      rw [← hConsumed] at hElement
      cases hElement
    · rw [get?_consumeAll tree hMember] at hNode
      exact hNode

------------------------------------------------------------
-- Single Items
------------------------------------------------------------

section Items

variable {tree next : Tree T}

theorem take_ok
    {id : NodeId}
    {referrer : Span}
    {token : T}
    (hTake : tree.take id referrer = .ok (token, next)) :
    tree.HoldsToken id ∧ next = tree.setKind id .consumed := by
  unfold take at hTake
  split at hTake
  · cases hTake
  · rename_i node hNode
    split at hTake
    · rename_i held hKind
      cases hTake
      exact ⟨⟨node, token, hNode, hKind⟩, rfl⟩
    · cases hTake

theorem take_spends
    {id : NodeId}
    {referrer : Span}
    {token : T}
    (hTake : tree.take id referrer = .ok (token, next)) :
    Spends tree [id] next := by
  rcases take_ok hTake with ⟨hHeld, hNext⟩
  rw [hNext]
  exact Spends.single hHeld

theorem takePart_spends
    {referrer : Span}
    {part : CodePart T}
    {token : T}
    (hTake :
      tree.takePart referrer part = .ok (token, next)) :
    Spends tree part.targets next := by
  cases part with
  | token text =>
      cases hTake
      exact Spends.nothing tree
  | node id => exact take_spends hTake

theorem takeAttribute_spends
    {attr : AttributeNode}
    {value : Attribute T}
    (hTake : tree.takeAttribute attr = .ok (value, next)) :
    Spends tree attr.slot.targets next := by
  rcases attr with ⟨name, slot, span⟩
  cases slot with
  | absent =>
      cases hTake
      exact Spends.nothing tree
  | text value =>
      cases hTake
      exact Spends.nothing tree
  | empty =>
      cases hTake
      exact Spends.nothing tree
  | other kind =>
      cases hTake
      exact Spends.nothing tree
  | expression id =>
      rcases exists_of_bind_eq_ok hTake with
        ⟨⟨token, rest⟩, hToken, hEq⟩
      cases hEq
      exact take_spends hToken
  | element id =>
      rcases exists_of_bind_eq_ok hTake with
        ⟨⟨token, rest⟩, hToken, hEq⟩
      cases hEq
      exact take_spends hToken
  | spread id =>
      rcases exists_of_bind_eq_ok hTake with
        ⟨⟨token, rest⟩, hToken, hEq⟩
      cases hEq
      exact take_spends hToken

/-
  A child spends what it needs, unless it is an element that
  stays raw and its parent is no component.
-/
theorem takeChild_spends
    {isComponent : Bool}
    {referrer : Span}
    {child : ChildNode}
    {value : Child T}
    (hTake : tree.takeChild referrer child = .ok (value, next))
    (hWhole : isComponent = true ∨ value.isRaw = false) :
    ∃ ids,
      Spends tree ids next ∧
        (child.needs isComponent).Sublist ids := by
  cases child with
  | text value span =>
      cases hTake
      exact ⟨[], Spends.nothing tree, List.Sublist.refl _⟩
  | other kind span =>
      cases hTake
      exact ⟨[], Spends.nothing tree, List.Sublist.refl _⟩
  | expression id span =>
      rcases exists_of_bind_eq_ok hTake with
        ⟨⟨token, rest⟩, hToken, hEq⟩
      cases hEq
      exact ⟨[id], take_spends hToken, List.Sublist.refl _⟩
  | element id =>
      -- A component needs no child element, raw or not.
      have hRaw :
          value.isRaw = true →
            (ChildNode.needs isComponent
              (.element id)).Sublist [] := by
        intro hValue
        rcases hWhole with hComponent | hLowered
        · rw [hComponent]
          exact List.Sublist.refl _
        · rw [hValue] at hLowered
          cases hLowered
      simp only [takeChild] at hTake
      split at hTake
      · cases hTake
        exact ⟨[], Spends.nothing tree, hRaw rfl⟩
      · rename_i node hNode
        split at hTake
        · rename_i token hKind
          cases hTake
          refine
            ⟨[id], Spends.single ⟨node, token, hNode, hKind⟩, ?_⟩
          simp only [ChildNode.needs]
          split
          · exact List.nil_sublist _
          · exact List.Sublist.refl _
        · cases hTake
          exact ⟨[], Spends.nothing tree, hRaw rfl⟩

end Items

------------------------------------------------------------
-- Many Items
------------------------------------------------------------

/- A reader of many items reads them one after the other. -/
structure TakesEach
    {α β : Type}
    (takeOne : Tree T → α → Except LowerError (β × Tree T))
    (takeEach :
      Tree T → List α →
        Except LowerError (List β × Tree T)) : Prop where
  nil : ∀ tree, takeEach tree [] = .ok ([], tree)
  cons :
    ∀ tree item items,
      takeEach tree (item :: items) = do
        let (value, tree) ← takeOne tree item
        let (values, tree) ← takeEach tree items
        return (value :: values, tree)

theorem takeParts_each
    (referrer : Span) :
    TakesEach (takePart (T := T) referrer)
      (takeParts referrer) where
  nil _ := rfl
  cons _ part _ := by cases part <;> rfl

theorem takeAttributes_each :
    TakesEach (takeAttribute (T := T)) takeAttributes where
  nil _ := rfl
  cons _ _ _ := rfl

theorem takeChildren_each
    (referrer : Span) :
    TakesEach (takeChild (T := T) referrer)
      (takeChildren referrer) where
  nil _ := rfl
  cons _ _ _ := rfl

namespace TakesEach

variable {α β : Type}
variable {takeOne : Tree T → α → Except LowerError (β × Tree T)}
variable {takeEach :
  Tree T → List α → Except LowerError (List β × Tree T)}

theorem cons_ok
    (hEach : TakesEach takeOne takeEach)
    {tree next : Tree T}
    {item : α}
    {items : List α}
    {values : List β}
    (hTake : takeEach tree (item :: items) = .ok (values, next)) :
    ∃ value others middle,
      takeOne tree item = .ok (value, middle) ∧
        takeEach middle items = .ok (others, next) ∧
        values = value :: others := by
  rw [hEach.cons] at hTake
  rcases exists_of_bind_eq_ok hTake with
    ⟨⟨value, middle⟩, hFirst, hTail⟩
  rcases exists_of_bind_eq_ok hTail with
    ⟨⟨others, last⟩, hOthers, hEq⟩
  cases hEq
  exact ⟨value, others, middle, hFirst, hOthers, rfl⟩

/-
  Items spend what they need, if each one does that is read
  as a whole.
-/
theorem spends
    (hEach : TakesEach takeOne takeEach)
    {needsOf : α → List NodeId}
    {P : β → Prop}
    (hOne :
      ∀ {tree item value next},
        takeOne tree item = .ok (value, next) →
        P value →
          ∃ ids,
            Spends tree ids next ∧ (needsOf item).Sublist ids)
    {tree next : Tree T}
    {items : List α}
    {values : List β}
    (hTake : takeEach tree items = .ok (values, next))
    (hWhole : ∀ value ∈ values, P value) :
    ∃ ids,
      Spends tree ids next ∧
        (items.flatMap needsOf).Sublist ids := by
  induction items generalizing tree values with
  | nil =>
      rw [hEach.nil] at hTake
      cases hTake
      exact ⟨[], Spends.nothing _, List.Sublist.refl _⟩
  | cons item items ih =>
      rcases hEach.cons_ok hTake with
        ⟨value, others, middle, hFirst, hRest, hValues⟩
      rw [hValues] at hWhole
      rcases List.forall_mem_cons.mp hWhole with
        ⟨hValue, hOthers⟩
      rcases hOne hFirst hValue with ⟨ids, hSpends, hNeeds⟩
      rcases ih hRest hOthers with ⟨more, hMore, hMoreNeeds⟩
      refine ⟨ids ++ more, hSpends.trans hMore, ?_⟩
      rw [List.flatMap_cons]
      exact hNeeds.append hMoreNeeds

end TakesEach

/- Code spends the tokens of all it refers to. -/
theorem takeParts_spends
    {tree next : Tree T}
    {referrer : Span}
    {parts : List (CodePart T)}
    {tokens : List T}
    (hTake :
      tree.takeParts referrer parts = .ok (tokens, next)) :
    ∃ ids,
      Spends tree ids next ∧
        (parts.flatMap CodePart.targets).Sublist ids :=
  (takeParts_each referrer).spends
    (P := fun _ => True)
    (fun hPart _ =>
      ⟨_, takePart_spends hPart, List.Sublist.refl _⟩)
    hTake (fun _ _ => trivial)

/- Attributes spend the tokens of all they refer to. -/
theorem takeAttributes_spends
    {tree next : Tree T}
    {attributes : List AttributeNode}
    {values : List (Attribute T)}
    (hTake :
      tree.takeAttributes attributes = .ok (values, next)) :
    ∃ ids,
      Spends tree ids next ∧
        (attributes.flatMap
          fun attr => attr.slot.targets).Sublist ids :=
  takeAttributes_each.spends
    (P := fun _ => True)
    (fun hAttr _ =>
      ⟨_, takeAttribute_spends hAttr, List.Sublist.refl _⟩)
    hTake (fun _ _ => trivial)

theorem takeElement_ok
    {tree next : Tree T}
    {span : Span}
    {element : ElementNode}
    {resolved : Element T}
    (hTake :
      tree.takeElement span element = .ok (resolved, next)) :
    ∃ middle,
      tree.takeAttributes element.attributes =
          .ok (resolved.attributes, middle) ∧
        middle.takeChildren span element.children =
          .ok (resolved.children, next) ∧
        resolved.tag = element.tag ∧
        resolved.span = span := by
  unfold takeElement at hTake
  rcases exists_of_bind_eq_ok hTake with
    ⟨⟨attributes, middle⟩, hAttributes, hRest⟩
  rcases exists_of_bind_eq_ok hRest with
    ⟨⟨children, last⟩, hChildren, hEq⟩
  cases hEq
  exact ⟨middle, hAttributes, hChildren, rfl, rfl⟩

/-
  An element spends the tokens of all it needs.  If it is no
  component, this takes that no child stays raw.
-/
theorem takeElement_spends
    {tree next : Tree T}
    {span : Span}
    {element : ElementNode}
    {resolved : Element T}
    (hTake :
      tree.takeElement span element = .ok (resolved, next))
    (hWhole :
      ∀ child ∈ resolved.children,
        element.tag.isComponent = true ∨
          child.isRaw = false) :
    ∃ ids,
      Spends tree ids next ∧ element.needs.Sublist ids := by
  rcases takeElement_ok hTake with
    ⟨middle, hAttributes, hChildren, _, _⟩
  rcases takeAttributes_spends hAttributes with
    ⟨first, hFirst, hFirstNeeds⟩
  rcases
      (takeChildren_each span).spends takeChild_spends
        hChildren hWhole with
    ⟨second, hSecond, hSecondNeeds⟩
  exact
    ⟨first ++ second, hFirst.trans hSecond,
      hFirstNeeds.append hSecondNeeds⟩

------------------------------------------------------------
-- One Node
------------------------------------------------------------

section Lowered

variable {now middle : Tree T}
variable {id other : NodeId}
variable {ids : List NodeId}

/- A node that is being lowered is consumed meanwhile. -/
theorem Spends.get?_self
    (hSpends : Spends (now.setKind id .consumed) ids middle)
    {node : Node T}
    (hNode : now.get? id = some node) :
    middle.get? id = some { node with kind := .consumed } := by
  have hMiddle : middle = now.consumeAll (id :: ids) :=
    hSpends.result
  rw [hMiddle, get?_consumeAll_of_mem now List.mem_cons_self,
    hNode]
  rfl

/- Lowering a node gives a stage of the arena. -/
theorem Spends.stageOf_lowered
    (hSpends : Spends (now.setKind id .consumed) ids middle)
    (token : T)
    {node : Node T}
    (hNode : now.get? id = some node)
    (hBears : node.kind.bearsToken = true) :
    (middle.setKind id (.lowered token)).StageOf now := by
  have hConsumed : (now.setKind id .consumed).StageOf now :=
    StageOf.setKind hNode
      (NodeKind.enclosure?_of_bearsToken hBears) rfl rfl
  have hLowered :
      (middle.setKind id (.lowered token)).StageOf middle :=
    StageOf.setKind (hSpends.get?_self hNode) rfl rfl rfl
  exact hLowered.trans (hSpends.stageOf.trans hConsumed)

/- The nodes that are neither lowered nor spent stay. -/
theorem Spends.get?_other
    (hSpends : Spends (now.setKind id .consumed) ids middle)
    (token : T)
    (hNe : id ≠ other)
    (hFree : other ∉ ids) :
    (middle.setKind id (.lowered token)).get? other =
      now.get? other := by
  have hMiddle : middle = now.consumeAll (id :: ids) :=
    hSpends.result
  have hNotMember : other ∉ id :: ids := by
    rw [List.mem_cons, not_or]
    exact ⟨Ne.symm hNe, hFree⟩
  rw [get?_setKind_ne _ _ hNe, hMiddle,
    get?_consumeAll now hNotMember]

/- No token appears but that of the node itself. -/
theorem Spends.holdsToken_other
    (hSpends : Spends (now.setKind id .consumed) ids middle)
    {token : T}
    (hNe : id ≠ other)
    (hHeld :
      (middle.setKind id (.lowered token)).HoldsToken other) :
    now.HoldsToken other ∧ other ∉ ids := by
  have hMiddle : middle = now.consumeAll (id :: ids) :=
    hSpends.result
  have hBefore : middle.HoldsToken other := by
    unfold HoldsToken at hHeld
    rw [get?_setKind_ne _ _ hNe] at hHeld
    exact hHeld
  rw [hMiddle, holdsToken_consumeAll_iff, List.mem_cons,
    not_or] at hBefore
  exact ⟨hBefore.1, hBefore.2.2⟩

end Lowered

/-
  What becomes of an arena when one of its nodes is lowered.
  A declaration is passed over.
-/
inductive Steps
    (now : Tree T)
    (id : NodeId)
    (node : Node T) : Tree T → Prop
  | skip
      (hBears : node.kind.bearsToken = false) :
      Steps now id node now
  | lower
      {ids : List NodeId}
      {middle : Tree T}
      (token : T)
      (hBears : node.kind.bearsToken = true)
      (hSpends :
        Spends (now.setKind id .consumed) ids middle)
      (hNeeds : node.kind.needs.Sublist ids) :
      Steps now id node (middle.setKind id (.lowered token))

/- A node that is code or an element comes out with a token. -/
theorem Steps.holdsToken
    {now next : Tree T}
    {id : NodeId}
    {node : Node T}
    (hStep : Steps now id node next)
    (hNode : now.get? id = some node)
    (hBears : node.kind.bearsToken = true) :
    next.HoldsToken id := by
  cases hStep with
  | skip hSkip =>
      rw [hBears] at hSkip
      cases hSkip
  | lower token _ hSpends _ =>
      exact
        ⟨_, token,
          get?_setKind_self _ _ (hSpends.get?_self hNode), rfl⟩

/- Lowering a node does nothing but spend and hold tokens. -/
theorem steps_of_lowerNode
    {host : Host T}
    {config : Config T}
    {now next : Tree T}
    {id more : Nat}
    {node : Node T}
    (hNode : now.get? id = some node)
    (hStep :
      now.lowerNode host config id = .ok (next, more)) :
    Steps now id node next ∧ more = elementWeight node.kind := by
  cases hBears : node.kind.bearsToken with
  | false =>
      rw [lowerNode_skip hNode hBears] at hStep
      cases hStep
      exact ⟨Steps.skip hBears, rfl⟩
  | true =>
      rcases NodeKind.code_or_element hBears with
        ⟨parts, hKind⟩ | ⟨content, hKind⟩
      · simp only [lowerNode, hNode, hKind] at hStep
        rcases exists_of_bind_eq_ok hStep with
          ⟨⟨tokens, middle⟩, hTake, hEq⟩
        cases hEq
        rcases takeParts_spends hTake with
          ⟨ids, hSpends, hNeeds⟩
        refine ⟨Steps.lower _ hBears hSpends ?_, ?_⟩
        · rw [hKind]
          exact hNeeds
        · rw [hKind]
          rfl
      · simp only [lowerNode, hNode, hKind] at hStep
        rcases exists_of_bind_eq_ok hStep with
          ⟨⟨resolved, middle⟩, hTake, hRest⟩
        rcases exists_of_bind_eq_ok hRest with
          ⟨lowered, hLower, hEq⟩
        cases hEq
        rcases takeElement_ok hTake with ⟨_, _, _, hTag, _⟩
        have hWhole :
            ∀ child ∈ resolved.children,
              content.tag.isComponent = true ∨
                child.isRaw = false := by
          intro child hChild
          cases hComponent : content.tag.isComponent with
          | true => exact Or.inl rfl
          | false =>
              rw [← hTag] at hComponent
              exact
                Or.inr
                  (Element.isRaw_of_lower hComponent hLower
                    child hChild)
        rcases takeElement_spends hTake hWhole with
          ⟨ids, hSpends, hNeeds⟩
        refine ⟨Steps.lower _ hBears hSpends ?_, ?_⟩
        · rw [hKind]
          exact hNeeds
        · rw [hKind]
          rfl

end Tree

end MarkupLowering
