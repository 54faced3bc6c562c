import MarkupLowering.Proofs.Outline.Planting
import MarkupLowering.Proofs.Tree.Runs
import MarkupLowering.Transform

/-
  This file says where the failures of lowering are reported.

  Whatever an arena refers to, the report on it stands at a
  node, an attribute or a child of the arena.  A node that is
  not yet lowered is named by its number or, if it is an
  element, by its tag.  The module itself is always lowered
  when all other nodes are.

  Key definitions include:
    * `Tree.spans`
    * `Tree.Labels`
    * `Tree.Explains`

  Key theorems include:
    * `Tree.take_error`
    * `Tree.TakesEach.exists_error`
    * `Tree.lowerNode_error`
    * `Tree.Reaches.holdsToken_root`
    * `Tree.lowerAll_error`
    * `Tree.lowering_reports_place`
-/

namespace MarkupLowering

variable {T : Type}

------------------------------------------------------------
-- Places
------------------------------------------------------------

/- The place of a child, unless it is that of a node. -/
def ChildNode.span? : ChildNode → Option Span
  | .text _ span => some span
  | .expression _ span => some span
  | .element _ => none
  | .other _ span => some span

/- The places of the attributes and children of an element. -/
def ElementNode.spans (element : ElementNode) : List Span :=
  element.attributes.map AttributeNode.span ++
    element.children.filterMap ChildNode.span?

/- The place of a node, and those of what it consists of. -/
def Node.spans (node : Node T) : List Span :=
  match node.kind with
  | .element content => node.span :: content.spans
  | _ => [node.span]

theorem Node.span_mem_spans
    (node : Node T) :
    node.span ∈ node.spans := by
  unfold spans
  split
  · exact List.mem_cons_self
  · exact List.mem_cons_self

namespace Tree

/- The places of all nodes, attributes and children. -/
def spans (tree : Tree T) : List Span :=
  tree.nodes.toList.flatMap Node.spans

/- A text names a node by number, or an element by its tag. -/
def Labels
    (tree : Tree T)
    (text : String) : Prop :=
  (∃ id : NodeId, text = "#" ++ toString id) ∨
    ∃ id node content,
      tree.get? id = some node ∧
        node.kind = .element content ∧
        content.tag.text = text

/-
  An error is reported at a place of the arena, and names a
  node of it if that has not been lowered.
-/
structure Explains
    (tree : Tree T)
    (error : LowerError) : Prop where
  place : ∃ span ∈ tree.spans, error.span = some span
  named :
    ∀ text,
      error.cause = .notYetLowered text → tree.Labels text

theorem mem_spans
    {tree : Tree T}
    {id : NodeId}
    {node : Node T}
    {span : Span}
    (hNode : tree.get? id = some node)
    (hSpan : span ∈ node.spans) :
    span ∈ tree.spans := by
  have hMember : node ∈ tree.nodes.toList :=
    Array.mem_toList_iff.mpr (Array.mem_of_getElem? hNode)
  exact List.mem_flatMap.mpr ⟨node, hMember, hSpan⟩

/- Only an element can bear the name of the module. -/
theorem Labels.exists_element
    {tree : Tree T}
    (hLabels : tree.Labels "<root>") :
    ∃ id node content,
      tree.get? id = some node ∧
        node.kind = .element content ∧
        content.tag.text = "<root>" := by
  rcases hLabels with ⟨id, hNumber⟩ | hElement
  · have hHead :=
      congrArg (fun text => text.toList.head?) hNumber
    simp at hHead
  · exact hElement

------------------------------------------------------------
-- Stages
------------------------------------------------------------

section Stages

variable {tree now next : Tree T}
variable {id : NodeId}
variable {referrer : Span}
variable {error : LowerError}

theorem StageOf.span_mem
    (hStage : now.StageOf tree)
    {node : Node T}
    (hNode : now.get? id = some node) :
    node.span ∈ tree.spans := by
  have hMap := hStage.frame id
  rw [hNode] at hMap
  rcases Option.map_eq_some_iff.mp hMap.symm with
    ⟨old, hOld, hFrame⟩
  have hSpan : old.span = node.span :=
    congrArg (fun frame => frame.2.1) hFrame
  rw [← hSpan]
  exact mem_spans hOld old.span_mem_spans

theorem StageOf.labels
    (hStage : now.StageOf tree)
    {node : Node T}
    (hNode : now.get? id = some node) :
    tree.Labels (label id node.kind) := by
  cases hKind : node.kind with
  | element content =>
      have hElement : node.kind.isElement = true := by
        rw [hKind]
        rfl
      exact
        Or.inr
          ⟨id, node, content,
            hStage.raw id node hNode hElement, hKind, rfl⟩
  | code parts => exact Or.inl ⟨id, rfl⟩
  | scope enclosure => exact Or.inl ⟨id, rfl⟩
  | lowered token => exact Or.inl ⟨id, rfl⟩
  | consumed => exact Or.inl ⟨id, rfl⟩

/- A token that is not there is missed at a known place. -/
theorem take_error
    (hStage : now.StageOf tree)
    (hReferrer : referrer ∈ tree.spans)
    (hTake : now.take id referrer = .error error) :
    tree.Explains error := by
  unfold take at hTake
  split at hTake
  · cases hTake
    refine ⟨⟨referrer, hReferrer, rfl⟩, ?_⟩
    intro text hText
    cases hText
    exact Or.inl ⟨id, rfl⟩
  · rename_i node hNode
    split at hTake
    · cases hTake
    · cases hTake
      refine ⟨⟨node.span, hStage.span_mem hNode, rfl⟩, ?_⟩
      intro text hText
      cases hText
      exact hStage.labels hNode

theorem takePart_error
    {part : CodePart T}
    (hStage : now.StageOf tree)
    (hReferrer : referrer ∈ tree.spans)
    (hTake : now.takePart referrer part = .error error) :
    tree.Explains error := by
  cases part with
  | token text => cases hTake
  | node id => exact take_error hStage hReferrer hTake

/- Taking a token and going on fails only in the taking. -/
theorem take_error_of_bind
    {β : Type}
    {after : T × Tree T → β}
    (hTake :
      (do
        let taken ← now.take id referrer
        return after taken) = .error error) :
    now.take id referrer = .error error := by
  rcases error_or_of_bind_eq_error hTake with
    hFirst | ⟨taken, _, hAfter⟩
  · exact hFirst
  · cases hAfter

theorem takeAttribute_error
    {attr : AttributeNode}
    (hStage : now.StageOf tree)
    (hAttr : attr.span ∈ tree.spans)
    (hTake : now.takeAttribute attr = .error error) :
    tree.Explains error := by
  rcases attr with ⟨name, slot, span⟩
  cases slot with
  | absent => cases hTake
  | text value => cases hTake
  | empty => cases hTake
  | other kind => cases hTake
  | expression id =>
      exact take_error hStage hAttr (take_error_of_bind hTake)
  | element id =>
      exact take_error hStage hAttr (take_error_of_bind hTake)
  | spread id =>
      exact take_error hStage hAttr (take_error_of_bind hTake)

theorem takeChild_error
    {child : ChildNode}
    (hStage : now.StageOf tree)
    (hChild :
      ∀ span, child.span? = some span → span ∈ tree.spans)
    (hTake : now.takeChild referrer child = .error error) :
    tree.Explains error := by
  cases child with
  | text value span => cases hTake
  | other kind span => cases hTake
  | expression id span =>
      exact
        take_error hStage (hChild span rfl)
          (take_error_of_bind hTake)
  | element id =>
      simp only [takeChild] at hTake
      split at hTake
      · cases hTake
      · split at hTake
        · cases hTake
        · cases hTake

theorem takeAttribute_span
    {attr : AttributeNode}
    {value : Attribute T}
    (hTake : now.takeAttribute attr = .ok (value, next)) :
    value.span = attr.span := by
  rcases attr with ⟨name, slot, span⟩
  cases slot with
  | absent =>
      cases hTake
      rfl
  | text value =>
      cases hTake
      rfl
  | empty =>
      cases hTake
      rfl
  | other kind =>
      cases hTake
      rfl
  | expression id =>
      rcases exists_of_bind_eq_ok hTake with ⟨_, _, hEq⟩
      cases hEq
      rfl
  | element id =>
      rcases exists_of_bind_eq_ok hTake with ⟨_, _, hEq⟩
      cases hEq
      rfl
  | spread id =>
      rcases exists_of_bind_eq_ok hTake with ⟨_, _, hEq⟩
      cases hEq
      rfl

/- A child has a known place, and a raw one a known name. -/
theorem takeChild_place
    {child : ChildNode}
    {value : Child T}
    (hStage : now.StageOf tree)
    (hReferrer : referrer ∈ tree.spans)
    (hChild :
      ∀ span, child.span? = some span → span ∈ tree.spans)
    (hTake :
      now.takeChild referrer child = .ok (value, next)) :
    value.span ∈ tree.spans ∧
      ∀ text span, value = .raw text span → tree.Labels text := by
  cases child with
  | text value span =>
      cases hTake
      exact ⟨hChild span rfl, fun _ _ hRaw => by cases hRaw⟩
  | other kind span =>
      cases hTake
      exact ⟨hChild span rfl, fun _ _ hRaw => by cases hRaw⟩
  | expression id span =>
      rcases exists_of_bind_eq_ok hTake with ⟨_, _, hEq⟩
      cases hEq
      exact ⟨hChild span rfl, fun _ _ hRaw => by cases hRaw⟩
  | element id =>
      simp only [takeChild] at hTake
      split at hTake
      · cases hTake
        refine ⟨hReferrer, ?_⟩
        intro text span hRaw
        cases hRaw
        exact Or.inl ⟨id, rfl⟩
      · rename_i node hNode
        split at hTake
        · cases hTake
          exact
            ⟨hStage.span_mem hNode, fun _ _ hRaw => by cases hRaw⟩
        · cases hTake
          refine ⟨hStage.span_mem hNode, ?_⟩
          intro text span hRaw
          cases hRaw
          exact hStage.labels hNode

end Stages

------------------------------------------------------------
-- Many Items
------------------------------------------------------------

namespace TakesEach

variable {α β : Type}
variable {takeOne : Tree T → α → Except LowerError (β × Tree T)}
variable {takeEach :
  Tree T → List α → Except LowerError (List β × Tree T)}

/- Items fail where one of them does, at a later stage. -/
theorem exists_error
    (hEach : TakesEach takeOne takeEach)
    (hOne :
      ∀ {tree item value next},
        takeOne tree item = .ok (value, next) →
          next.StageOf tree)
    {tree : Tree T}
    {items : List α}
    {error : LowerError}
    (hTake : takeEach tree items = .error error) :
    ∃ item ∈ items, ∃ stage : Tree T,
      stage.StageOf tree ∧ takeOne stage item = .error error := by
  induction items generalizing tree with
  | nil =>
      rw [hEach.nil] at hTake
      cases hTake
  | cons item items ih =>
      rw [hEach.cons] at hTake
      rcases error_or_of_bind_eq_error hTake with
        hFirst | ⟨⟨value, middle⟩, hFirst, hTail⟩
      · exact
          ⟨item, List.mem_cons_self, tree, StageOf.refl tree,
            hFirst⟩
      · rcases error_or_of_bind_eq_error hTail with
          hRest | ⟨_, _, hReturn⟩
        · rcases ih hRest with
            ⟨other, hOther, stage, hStage, hError⟩
          exact
            ⟨other, List.mem_cons_of_mem item hOther, stage,
              hStage.trans (hOne hFirst), hError⟩
        · cases hReturn

/- Every value comes from an item, at a later stage. -/
theorem exists_item
    (hEach : TakesEach takeOne takeEach)
    (hOne :
      ∀ {tree item value next},
        takeOne tree item = .ok (value, next) →
          next.StageOf tree)
    {tree next : Tree T}
    {items : List α}
    {values : List β}
    {value : β}
    (hTake : takeEach tree items = .ok (values, next))
    (hValue : value ∈ values) :
    ∃ item ∈ items, ∃ stage after : Tree T,
      stage.StageOf tree ∧
        takeOne stage item = .ok (value, after) := by
  induction items generalizing tree values with
  | nil =>
      rw [hEach.nil] at hTake
      cases hTake
      cases hValue
  | cons item items ih =>
      rcases hEach.cons_ok hTake with
        ⟨first, others, middle, hFirst, hRest, hValues⟩
      rw [hValues] at hValue
      rcases List.mem_cons.mp hValue with hHead | hTail
      · rw [hHead]
        exact
          ⟨item, List.mem_cons_self, tree, middle,
            StageOf.refl tree, hFirst⟩
      · rcases ih hRest hTail with
          ⟨other, hOther, stage, after, hStage, hTaken⟩
        exact
          ⟨other, List.mem_cons_of_mem item hOther, stage,
            after, hStage.trans (hOne hFirst), hTaken⟩

end TakesEach

------------------------------------------------------------
-- Elements
------------------------------------------------------------

section Elements

variable {tree now next : Tree T}
variable {span : Span}
variable {element : ElementNode}
variable {error : LowerError}

theorem takeAttribute_stageOf
    {attr : AttributeNode}
    {value : Attribute T}
    (hTake : now.takeAttribute attr = .ok (value, next)) :
    next.StageOf now :=
  (takeAttribute_spends hTake).stageOf

theorem takeChild_stageOf
    {child : ChildNode}
    {value : Child T}
    (hTake : now.takeChild span child = .ok (value, next)) :
    next.StageOf now := by
  rcases takeChild_spends hTake (Or.inl rfl) with
    ⟨_, hSpends, _⟩
  exact hSpends.stageOf

theorem takeAttributes_stageOf
    {attributes : List AttributeNode}
    {values : List (Attribute T)}
    (hTake : now.takeAttributes attributes = .ok (values, next)) :
    next.StageOf now := by
  rcases takeAttributes_spends hTake with ⟨_, hSpends, _⟩
  exact hSpends.stageOf

/- Code misses a token at its own place or that of the node. -/
theorem takeParts_error
    {parts : List (CodePart T)}
    (hStage : now.StageOf tree)
    (hSpan : span ∈ tree.spans)
    (hTake : now.takeParts span parts = .error error) :
    tree.Explains error := by
  rcases
      (takeParts_each span).exists_error
        (fun hPart => (takePart_spends hPart).stageOf)
        hTake with
    ⟨part, _, stage, hLater, hPart⟩
  exact takePart_error (hLater.trans hStage) hSpan hPart

/- The parts of an element have places of the arena. -/
theorem StageOf.parts_mem
    {id : NodeId}
    {node : Node T}
    (hStage : now.StageOf tree)
    (hNode : now.get? id = some node)
    (hKind : node.kind = .element element) :
    ∀ place ∈ element.spans, place ∈ tree.spans := by
  intro place hPlace
  have hRaw : tree.get? id = some node := by
    apply hStage.raw id node hNode
    rw [hKind]
    rfl
  apply mem_spans hRaw
  unfold Node.spans
  rw [hKind]
  exact List.mem_cons_of_mem _ hPlace

/- An element misses a token at one of its parts. -/
theorem takeElement_error
    (hStage : now.StageOf tree)
    (hParts : ∀ place ∈ element.spans, place ∈ tree.spans)
    (hTake : now.takeElement span element = .error error) :
    tree.Explains error := by
  unfold takeElement at hTake
  rcases error_or_of_bind_eq_error hTake with
    hAttributes | ⟨⟨attributes, middle⟩, hAttributes, hRest⟩
  · rcases
        takeAttributes_each.exists_error takeAttribute_stageOf
          hAttributes with
      ⟨attr, hAttr, stage, hLater, hError⟩
    refine
      takeAttribute_error (hLater.trans hStage) ?_ hError
    exact
      hParts _
        (List.mem_append_left _ (List.mem_map_of_mem hAttr))
  · rcases error_or_of_bind_eq_error hRest with
      hChildren | ⟨_, _, hReturn⟩
    · rcases
          (takeChildren_each span).exists_error
            takeChild_stageOf hChildren with
        ⟨child, hChild, stage, hLater, hError⟩
      have hMiddle := takeAttributes_stageOf hAttributes
      refine
        takeChild_error
          (hLater.trans (hMiddle.trans hStage)) ?_ hError
      intro place hPlace
      exact
        hParts _
          (List.mem_append_right _
            (List.mem_filterMap.mpr ⟨child, hChild, hPlace⟩))
    · cases hReturn

/- An element that was taken from an arena has its places. -/
theorem takeElement_places
    {resolved : Element T}
    (hStage : now.StageOf tree)
    (hSpan : span ∈ tree.spans)
    (hParts : ∀ place ∈ element.spans, place ∈ tree.spans)
    (hTake : now.takeElement span element = .ok (resolved, next)) :
    (∀ attr ∈ resolved.attributes, attr.span ∈ tree.spans) ∧
      ∀ child ∈ resolved.children,
        child.span ∈ tree.spans ∧
          ∀ text place,
            child = .raw text place → tree.Labels text := by
  rcases takeElement_ok hTake with
    ⟨middle, hAttributes, hChildren, _, _⟩
  refine ⟨?_, ?_⟩
  · intro value hValue
    rcases
        takeAttributes_each.exists_item takeAttribute_stageOf
          hAttributes hValue with
      ⟨attr, hAttr, stage, after, _, hTaken⟩
    rw [takeAttribute_span hTaken]
    exact
      hParts _
        (List.mem_append_left _ (List.mem_map_of_mem hAttr))
  · intro value hValue
    rcases
        (takeChildren_each span).exists_item takeChild_stageOf
          hChildren hValue with
      ⟨child, hChild, stage, after, hLater, hTaken⟩
    have hMiddle := takeAttributes_stageOf hAttributes
    refine
      takeChild_place
        (hLater.trans (hMiddle.trans hStage)) hSpan ?_ hTaken
    intro place hPlace
    exact
      hParts _
        (List.mem_append_right _
          (List.mem_filterMap.mpr ⟨child, hChild, hPlace⟩))

/- An element that is refused is refused at a known place. -/
theorem explains_of_refused
    {config : Config T}
    {resolved : Element T}
    (hKeeps : config.KeepsSpan)
    (hStage : now.StageOf tree)
    (hSpan : span ∈ tree.spans)
    (hParts : ∀ place ∈ element.spans, place ∈ tree.spans)
    (hTake : now.takeElement span element = .ok (resolved, next))
    (hRefused : resolved.Refused config error) :
    tree.Explains error := by
  rcases takeElement_places hStage hSpan hParts hTake with
    ⟨hAttributes, hChildren⟩
  rcases takeElement_ok hTake with ⟨_, _, _, _, hResolved⟩
  refine ⟨?_, ?_⟩
  · rcases hRefused.place hKeeps with ⟨place, hPlace, hWhere⟩
    refine ⟨place, ?_, hPlace⟩
    rcases hWhere with
      hSelf | ⟨attr, hAttr, hSame⟩ | ⟨child, hChild, hSame⟩
    · rw [hSelf, hResolved]
      exact hSpan
    · rw [hSame]
      exact hAttributes attr hAttr
    · rw [hSame]
      exact (hChildren child hChild).1
  · intro text hText
    rcases hRefused.of_notYetLowered hText with ⟨place, hRaw⟩
    exact (hChildren _ hRaw).2 text place rfl

end Elements

------------------------------------------------------------
-- Runs
------------------------------------------------------------

section Runs

variable {host : Host T}
variable {config : Config T}
variable {tree now : Tree T}
variable {error : LowerError}

/- A node that cannot be lowered is reported at a known place. -/
theorem lowerNode_error
    {id : NodeId}
    (hKeeps : config.KeepsSpan)
    (hStage : now.StageOf tree)
    (hError : now.lowerNode host config id = .error error) :
    tree.Explains error := by
  cases hNode : now.get? id with
  | none =>
      simp only [lowerNode, hNode] at hError
      cases hError
  | some node =>
      cases hBears : node.kind.bearsToken with
      | false =>
          rw [lowerNode_skip hNode hBears] at hError
          cases hError
      | true =>
          have hSpan := hStage.span_mem hNode
          have hHeld :
              (now.setKind id .consumed).StageOf tree :=
            (StageOf.setKind hNode
              (NodeKind.enclosure?_of_bearsToken hBears)
              rfl rfl).trans hStage
          rcases NodeKind.code_or_element hBears with
            ⟨parts, hKind⟩ | ⟨content, hKind⟩
          · simp only [lowerNode, hNode, hKind] at hError
            rcases error_or_of_bind_eq_error hError with
              hTake | ⟨_, _, hReturn⟩
            · exact takeParts_error hHeld hSpan hTake
            · cases hReturn
          · have hParts := hStage.parts_mem hNode hKind
            simp only [lowerNode, hNode, hKind] at hError
            rcases error_or_of_bind_eq_error hError with
              hTake | ⟨⟨resolved, middle⟩, hTake, hRest⟩
            · exact takeElement_error hHeld hParts hTake
            · rcases error_or_of_bind_eq_error hRest with
                hLower | ⟨_, _, hReturn⟩
              · exact
                  explains_of_refused hKeeps hHeld hSpan hParts
                    hTake (Element.refused_of_lower hLower)
              · cases hReturn

/- After the last step the module itself holds its token. -/
theorem Reaches.holdsToken_root
    (hReaches : Reaches host config tree now Tree.root)
    (hFresh : tree.Fresh)
    (hRoot : tree.RootIsCode) :
    now.HoldsToken Tree.root := by
  rcases hRoot with ⟨code, parts, hCode, hKind⟩
  generalize hBound : Tree.root = bound at hReaches
  cases hReaches with
  | start =>
      have hSize := lt_size_of_get? hCode
      rw [hBound] at hSize
      exact absurd hSize (Nat.lt_irrefl _)
  | step hBefore hStep =>
      subst hBound
      rcases
          (hBefore.orderly hFresh).exists_node
            hBefore.le_size with
        ⟨node, hNode, hSame⟩
      rw [hCode] at hNode
      cases hNode
      have hBears : code.kind.bearsToken = true := by
        rw [hKind]
        rfl
      exact
        (steps_of_lowerNode hSame hStep).1.holdsToken hSame
          hBears

/- Lowering fails at a node, never for want of the module. -/
theorem lowerAll_error
    (hKeeps : config.KeepsSpan)
    (hFresh : tree.Fresh)
    (hRoot : tree.RootIsCode)
    (hRun : tree.lowerAll host config = .error error) :
    tree.Explains error ∧
      tree.lowerBelow host config tree.size 0 = .error error := by
  unfold lowerAll at hRun
  rcases error_or_of_bind_eq_error hRun with
    hBelow | ⟨⟨final, total⟩, hBelow, hRest⟩
  · rcases lowerBelow_error Reaches.start hBelow with
      ⟨id, stage, hReaches, hError⟩
    have hStage := (hReaches.orderly hFresh).stage
    exact ⟨lowerNode_error hKeeps hStage hError, hBelow⟩
  · rcases lowerBelow_ok Reaches.start hFresh hBelow with
      ⟨hFinal, _⟩
    rcases hFinal.holdsToken_root hFresh hRoot with
      ⟨⟨parent, span, kind⟩, token, hNode, hKind⟩
    cases hKind
    simp only [hNode] at hRest
    cases hRest

end Runs

------------------------------------------------------------
-- Reports
------------------------------------------------------------

/-
  If an arena that was built in any way cannot be lowered, and
  attribute transforms leave attributes where they are, then
  the error has a place, which is that of a node, an attribute
  or a child of the arena.  It comes from one of the nodes: the
  final look at the module never fails.  An error that names
  the module names an element with such a tag.

  The report on a source text is thus the same whatever place
  is given for errors without one.
-/
theorem lowering_reports_place :
    (∀ (T : Type)
      (host : Host T)
      (config : Config T)
      (tree : Tree T)
      (error : LowerError),
      config.KeepsSpan →
      tree.Built →
      tree.lowerAll host config = .error error →
        (∃ span ∈ tree.spans, error.span = some span) ∧
        tree.lowerBelow host config tree.size 0 =
          .error error ∧
        (error.cause = .notYetLowered "<root>" →
          ∃ id node content,
            tree.get? id = some node ∧
              node.kind = .element content ∧
              content.tag.text = "<root>")) ∧
    ∀ (config : Config String)
      (file source : String)
      (outline : Outline)
      (report : Diagnostic),
      config.KeepsSpan →
      Script.readModule source = .ok outline →
      transform config file source = .error report →
        ∃ error,
          (outline.plant source).lowerAll Host.text config =
            .error error ∧
          (∃ span ∈ (outline.plant source).spans,
            error.span = some span) ∧
          ∀ fallback,
            report = .ofLowerError error file source fallback := by
  refine ⟨?_, ?_⟩
  · intro T host config tree error hKeeps hBuilt hRun
    rcases
        lowerAll_error hKeeps hBuilt.fresh hBuilt.root_is_code
          hRun with
      ⟨hExplains, hBelow⟩
    refine ⟨hExplains.place, hBelow, ?_⟩
    intro hCause
    exact (hExplains.named _ hCause).exists_element
  · intro config file source outline report hKeeps hRead hRun
    simp only [transform, hRead, Outline.lower] at hRun
    split at hRun
    · rename_i error hLower
      cases hRun
      have hPlace :=
        (lowerAll_error hKeeps
          (Outline.plant_fresh source outline)
          (Outline.plant_rootIsCode source outline)
          hLower).1.place
      refine ⟨error, hLower, hPlace, ?_⟩
      intro fallback
      rcases hPlace with ⟨span, _, hSpan⟩
      unfold Diagnostic.ofLowerError
      rw [hSpan]
      rfl
    · cases hRun

/-
  An element that is a child of a later one, under a tag that
  reads like the module.
-/
def impostor : Tree String :=
  let tree := Tree.ofSpan ⟨0, 20⟩
  let (early, tree) :=
    tree.addElement Tree.root ⟨1, 5⟩
      ⟨.identifier "<root>", [], [], true⟩
  let (_, tree) :=
    tree.addElement Tree.root ⟨6, 9⟩
      ⟨.identifier "div", [], [.element early], true⟩
  tree

theorem impostor_built : impostor.Built :=
  ((Built.ofSpan _).addElement _ _ _).addElement _ _ _

/- Plain calls, and `className` written as `class`. -/
def plainCalls : Config String :=
  ⟨"rt", "T", "T", false, false,
    some NamedAttribute.classNameToClass, none⟩

theorem plainCalls_keepsSpan : plainCalls.KeepsSpan := by
  intro attr
  simp only [Config.transformAttribute, plainCalls,
    NamedAttribute.classNameToClass]
  split <;> rfl

/- An element can be missed under the name of the module. -/
theorem lowerAll_misses_impostor :
    impostor.Built ∧
      plainCalls.KeepsSpan ∧
      impostor.lowerAll Host.text plainCalls =
        .error (.placed (.notYetLowered "<root>") ⟨1, 5⟩) :=
  ⟨impostor_built, plainCalls_keepsSpan, by decide +kernel⟩

theorem lowering_reports_place_impostor :
    lowerBelow Host.text plainCalls 3 impostor 0 =
        .error (.placed (.notYetLowered "<root>") ⟨1, 5⟩) ∧
      ⟨1, 5⟩ ∈ impostor.spans ∧
      ∃ outline error,
        Script.readModule "<Card/>" = .ok outline ∧
          (∃ span ∈ (outline.plant "<Card/>").spans,
            error.span = some span) ∧
          ∀ fallback,
            transform plainCalls "a.jsx" "<Card/>" =
              .error
                (.ofLowerError error "a.jsx" "<Card/>"
                  fallback) := by
  have hRun :
      impostor.lowerAll Host.text plainCalls =
        .error (.placed (.notYetLowered "<root>") ⟨1, 5⟩) := by
    decide +kernel
  rcases
      lowering_reports_place.1 String Host.text plainCalls
        impostor _ plainCalls_keepsSpan impostor_built hRun with
    ⟨⟨span, hSpan, hEq⟩, hBelow, _⟩
  cases hEq
  refine ⟨hBelow, hSpan, ?_⟩
  have hRead :
      (Script.readModule "<Card/>").toOption.isSome = true := by
    decide +kernel
  have hFails :
      (transform plainCalls "a.jsx" "<Card/>").toOption = none := by
    decide +kernel
  cases hOutline : Script.readModule "<Card/>" with
  | error error =>
      rw [hOutline] at hRead
      cases hRead
  | ok outline =>
      cases hReport : transform plainCalls "a.jsx" "<Card/>" with
      | ok output =>
          rw [hReport] at hFails
          cases hFails
      | error report =>
          rcases
              lowering_reports_place.2 plainCalls "a.jsx"
                "<Card/>" outline report plainCalls_keepsSpan
                hOutline hReport with
            ⟨error, _, hPlace, hSame⟩
          refine ⟨outline, error, rfl, hPlace, ?_⟩
          intro fallback
          rw [hSame fallback]

end Tree

end MarkupLowering
