import MarkupLowering.Proofs.Template.FirstFault
import MarkupLowering.Proofs.Tree.Refinement
import Mathlib.Logic.Relation

/-
  This file says which error the lowering of a well-formed
  arena reports.

  Whether an element is at fault can be seen from the element
  itself and its scope: what it refers to counts only as a
  token, whatever that token is.  Since lowering goes from the
  last node to the first, the last element at fault is the one
  that is reported, so no element is reported before all its
  descendants are in order.

  Key definitions include:
    * `ElementNode.silhouette`
    * `ElementNode.fault?`
    * `Tree.faultAt`
    * `Tree.blank`
    * `Tree.Refers`

  Key theorems include:
    * `ElementNode.fault?_eq`
    * `Tree.faultAt_blank`
    * `Tree.LastFault.faultAt_eq`
    * `Tree.lowerAll_reports_last_fault`
-/

namespace MarkupLowering

variable {T : Type}

------------------------------------------------------------
-- Silhouettes
------------------------------------------------------------

/- An attribute without the token it refers to. -/
def AttributeNode.silhouette
    (attr : AttributeNode) : Attribute Unit :=
  let named (value : AttributeValue Unit) : Attribute Unit :=
    .named ⟨attr.name.getD "", value, attr.span⟩
  match attr.slot with
  | .absent => named .absent
  | .text value => named (.text value)
  | .empty => named .empty
  | .other kind => named (.other kind)
  | .expression _ => named (.expression ())
  | .element _ => named (.element ())
  | .spread _ => .spread () attr.span

/-
  A child without the token it refers to.  The place of a
  child element is left out with it: nothing is reported there.
-/
def ChildNode.silhouette : ChildNode → Child Unit
  | .text value span => .text value span
  | .other kind span => .other kind span
  | .expression _ span => .expression () span
  | .element _ => .lowered () Span.zero

/- An element without the tokens it refers to. -/
def ElementNode.silhouette
    (span : Span)
    (content : ElementNode) : Element Unit where
  tag := content.tag
  attributes := content.attributes.map AttributeNode.silhouette
  children := content.children.map ChildNode.silhouette
  hasClosingTag := content.hasClosingTag
  span := span

/- The first fault of an element, as far as it goes by itself. -/
def ElementNode.fault?
    (span : Span)
    (scope : Scope)
    (content : ElementNode) : Option LowerError :=
  (content.silhouette span).fault? id scope

------------------------------------------------------------
-- Faults Do Not Depend on Tokens
------------------------------------------------------------

section Silhouettes

variable {spanOf : NodeId → Span}
variable {tokenOf : NodeId → Except LowerError T}

/- Items that are read one by one look alike one by one. -/
theorem map_eq_of_mapM
    {α β γ : Type}
    {read : α → Except LowerError β}
    {left : β → γ}
    {right : α → γ}
    (hOne :
      ∀ item value,
        read item = .ok value → left value = right item)
    {items : List α}
    {values : List β}
    (hRead : items.mapM read = .ok values) :
    values.map left = items.map right := by
  induction items generalizing values with
  | nil =>
      cases hRead
      rfl
  | cons item rest ih =>
      rw [List.mapM_cons] at hRead
      rcases exists_of_bind_eq_ok hRead with
        ⟨value, hValue, hTail⟩
      rcases exists_of_bind_eq_ok hTail with
        ⟨others, hOthers, hEq⟩
      cases hEq
      rw [List.map_cons, List.map_cons, hOne item value hValue,
        ih hOthers]

/- What an attribute is at fault for, and whether it is a token. -/
def Attribute.traits
    (attr : Attribute T) :
    Option LowerError × Option LowerError × Bool :=
  (attr.fault? .unsupportedValue id,
    attr.fault? .unhandledValue id, attr.isDynamic id)

/- What a child is at fault for, and whether it is a token. -/
def Child.traits
    (child : Child T) : Option LowerError × Bool :=
  (child.fault?, child.isDynamic)

theorem AttributeNode.withTokens_traits
    (attr : AttributeNode)
    (value : Attribute T)
    (hValue : attr.withTokens tokenOf = .ok value) :
    value.traits = attr.silhouette.traits := by
  rcases attr with ⟨name, slot, span⟩
  cases slot with
  | absent =>
      cases hValue
      rfl
  | text text =>
      cases hValue
      rfl
  | empty =>
      cases hValue
      rfl
  | other kind =>
      cases hValue
      rfl
  | expression id =>
      rcases exists_of_map_eq_ok hValue with ⟨token, _, rfl⟩
      rfl
  | element id =>
      rcases exists_of_map_eq_ok hValue with ⟨token, _, rfl⟩
      rfl
  | spread id =>
      rcases exists_of_map_eq_ok hValue with ⟨token, _, rfl⟩
      rfl

theorem ChildNode.withTokens_traits
    (child : ChildNode)
    (value : Child T)
    (hValue : child.withTokens spanOf tokenOf = .ok value) :
    value.traits = child.silhouette.traits := by
  cases child with
  | text text span =>
      cases hValue
      rfl
  | other kind span =>
      cases hValue
      rfl
  | expression id span =>
      rcases exists_of_map_eq_ok hValue with ⟨token, _, rfl⟩
      rfl
  | element id =>
      rcases exists_of_map_eq_ok hValue with ⟨token, _, rfl⟩
      rfl

end Silhouettes

/-
  Lists that look alike item by item have the same first
  fault, hold as many tokens, and end alike.
-/
section LookAlikes

variable {α β γ : Type}
variable {left : α → γ}
variable {right : β → γ}
variable {items : List α}
variable {others : List β}

theorem findSome?_eq_of_map_eq
    (hAlike : items.map left = others.map right)
    (fault : γ → Option LowerError) :
    items.findSome? (fault ∘ left) =
      others.findSome? (fault ∘ right) := by
  rw [← List.findSome?_map, hAlike, List.findSome?_map]

theorem countP_eq_of_map_eq
    (hAlike : items.map left = others.map right)
    (dynamic : γ → Bool) :
    items.countP (dynamic ∘ left) =
      others.countP (dynamic ∘ right) := by
  rw [← List.countP_map, hAlike, List.countP_map]

theorem getLast?_any_eq_of_map_eq
    (hAlike : items.map left = others.map right)
    (dynamic : γ → Bool) :
    items.getLast?.any (dynamic ∘ left) =
      others.getLast?.any (dynamic ∘ right) := by
  have hLast :=
    congrArg (fun traits => traits.getLast?.any dynamic) hAlike
  simp only [List.getLast?_map, Option.any_map] at hLast
  exact hLast

end LookAlikes

/- The faults of an element depend on the traits of its parts. -/
theorem Element.fault?_congr
    {U : Type}
    {first : Element T}
    {second : Element U}
    (hTag : first.tag = second.tag)
    (hClosing : first.hasClosingTag = second.hasClosingTag)
    (hSpan : first.span = second.span)
    (hAttributes :
      first.attributes.map Attribute.traits =
        second.attributes.map Attribute.traits)
    (hChildren :
      first.children.map Child.traits =
        second.children.map Child.traits)
    (scope : Scope) :
    first.fault? id scope = second.fault? id scope := by
  have hProperties :
      first.attributes.findSome?
          (Attribute.fault? .unsupportedValue id) =
        second.attributes.findSome?
          (Attribute.fault? .unsupportedValue id) :=
    findSome?_eq_of_map_eq hAttributes fun traits => traits.1
  have hValues :
      first.attributes.findSome?
          (Attribute.fault? .unhandledValue id) =
        second.attributes.findSome?
          (Attribute.fault? .unhandledValue id) :=
    findSome?_eq_of_map_eq hAttributes fun traits => traits.2.1
  have hTokens :
      first.attributes.countP (Attribute.isDynamic id) =
        second.attributes.countP (Attribute.isDynamic id) :=
    countP_eq_of_map_eq hAttributes fun traits => traits.2.2
  have hMisfits :
      first.children.findSome? Child.fault? =
        second.children.findSome? Child.fault? :=
    findSome?_eq_of_map_eq hChildren fun traits => traits.1
  have hChildTokens :
      first.children.countP Child.isDynamic =
        second.children.countP Child.isDynamic :=
    countP_eq_of_map_eq hChildren fun traits => traits.2
  have hLast :
      first.children.getLast?.any Child.isDynamic =
        second.children.getLast?.any Child.isDynamic :=
    getLast?_any_eq_of_map_eq hChildren fun traits => traits.2
  simp only [fault?, componentFault?, templateFault?, openEnd?,
    holeCount, hTag, hClosing, hSpan, hProperties, hValues,
    hMisfits, hTokens, hChildTokens, hLast]

/- An element that got its tokens has the faults it had before. -/
theorem ElementNode.fault?_eq
    {spanOf : NodeId → Span}
    {tokenOf : NodeId → Except LowerError T}
    {span : Span}
    {content : ElementNode}
    {resolved : Element T}
    (hResolved :
      content.withTokens spanOf tokenOf span = .ok resolved)
    (scope : Scope) :
    resolved.fault? id scope = content.fault? span scope := by
  rcases exists_of_bind_eq_ok hResolved with
    ⟨attributes, hAttributes, hRest⟩
  rcases exists_of_bind_eq_ok hRest with
    ⟨children, hChildren, hEq⟩
  cases hEq
  unfold fault?
  apply Element.fault?_congr
  · rfl
  · rfl
  · rfl
  · rw [silhouette, List.map_map]
    exact map_eq_of_mapM AttributeNode.withTokens_traits hAttributes
  · rw [silhouette, List.map_map]
    exact map_eq_of_mapM ChildNode.withTokens_traits hChildren

------------------------------------------------------------
-- Faults in an Arena
------------------------------------------------------------

namespace Tree

/- The fault of the element of a number in its scope. -/
def faultAt
    (tree : Tree T)
    (id : NodeId) : Option LowerError :=
  match tree.get? id with
  | some ⟨_, span, .element content⟩ =>
      content.fault? span (tree.scopeOf id)
  | _ => none

theorem faultAt_element
    {tree : Tree T}
    {id : NodeId}
    {node : Node T}
    {content : ElementNode}
    (hNode : tree.get? id = some node)
    (hKind : node.kind = .element content) :
    tree.faultAt id =
      content.fault? node.span (tree.scopeOf id) := by
  rcases node with ⟨parent, span, kind⟩
  cases hKind
  unfold faultAt
  rw [hNode]

/- Only an element is at fault. -/
theorem exists_element_of_faultAt
    {tree : Tree T}
    {id : NodeId}
    {error : LowerError}
    (hFault : tree.faultAt id = some error) :
    ∃ node content,
      tree.get? id = some node ∧
        node.kind = .element content ∧
        content.fault? node.span (tree.scopeOf id) =
          some error := by
  unfold faultAt at hFault
  split at hFault
  · rename_i parent span content hNode
    exact ⟨_, content, hNode, rfl, hFault⟩
  · cases hFault

end Tree

------------------------------------------------------------
-- Arenas without Tokens
------------------------------------------------------------

/- A part of code without its token. -/
def CodePart.blank : CodePart T → CodePart Unit
  | .token _ => .token ()
  | .node id => .node id

/- What a node holds, without tokens. -/
def NodeKind.blank : NodeKind T → NodeKind Unit
  | .code parts => .code (parts.map CodePart.blank)
  | .scope enclosure => .scope enclosure
  | .element content => .element content
  | .lowered _ => .lowered ()
  | .consumed => .consumed

/- A node without tokens. -/
def Node.blank (node : Node T) : Node Unit :=
  ⟨node.parent, node.span, node.kind.blank⟩

theorem Node.enclosure?_blank
    (node : Node T) :
    node.blank.enclosure? = node.enclosure? := by
  rcases node with ⟨parent, span, kind⟩
  cases kind <;> rfl

namespace Tree

/- The arena with every token left out. -/
def blank (tree : Tree T) : Tree Unit :=
  ⟨tree.nodes.map Node.blank⟩

theorem get?_blank
    (tree : Tree T)
    (id : NodeId) :
    tree.blank.get? id = (tree.get? id).map Node.blank :=
  Array.getElem?_map

theorem chainFrom_blank
    (tree : Tree T)
    (limit : Nat)
    (next? : Option NodeId) :
    tree.blank.chainFrom limit next? =
      (tree.chainFrom limit next?).map Node.blank := by
  induction limit generalizing next? with
  | zero => rfl
  | succ limit ih =>
      cases next? with
      | none => rfl
      | some id =>
          simp only [chainFrom, get?_blank]
          cases tree.get? id with
          | none => rfl
          | some node =>
              simp only [Option.map_some, List.map_cons, ih]
              rfl

theorem scopeOf_blank
    (tree : Tree T)
    (id : NodeId) :
    tree.blank.scopeOf id = tree.scopeOf id := by
  have hParent :
      (tree.blank.get? id).bind Node.parent =
        (tree.get? id).bind Node.parent := by
    rw [get?_blank]
    cases tree.get? id <;> rfl
  unfold scopeOf ancestors
  rw [hParent, chainFrom_blank, List.map_map]
  congr 1
  apply List.map_congr_left
  intro node _
  exact node.enclosure?_blank

/- No token has a part in any fault. -/
theorem faultAt_blank
    (tree : Tree T)
    (id : NodeId) :
    tree.blank.faultAt id = tree.faultAt id := by
  unfold faultAt
  rw [scopeOf_blank, get?_blank]
  cases tree.get? id with
  | none => rfl
  | some node =>
      rcases node with ⟨parent, span, kind⟩
      cases kind <;> rfl

------------------------------------------------------------
-- The Last Fault
------------------------------------------------------------

section LastFault

variable {host : Host T}
variable {config : Config T}
variable {tree : Tree T}

theorem transformAttribute_eq_id
    (hPlain : config.attributeHook = none) :
    config.transformAttribute = id := by
  funext attr
  unfold Config.transformAttribute
  rw [hPlain]
  rfl

/- The last element that cannot be lowered is at fault. -/
theorem LastFault.faultAt_eq
    (hPlain : config.attributeHook = none)
    {id : NodeId}
    {error : LowerError}
    (hLast : LastFault host config tree id error) :
    tree.faultAt id = some error := by
  rcases hLast.unlowered with
    ⟨node, content, resolved, hNode, hKind, hResolved, hLower⟩
  have hFault :=
    Element.lower_fault config resolved (tree.scopeOf id)
  rw [hLower, transformAttribute_eq_id hPlain,
    ElementNode.fault?_eq hResolved] at hFault
  rw [faultAt_element hNode hKind, ← hFault]
  rfl

/- What means something is not at fault. -/
theorem faultAt_eq_none
    (hWell : tree.WellFormed)
    (hPlain : config.attributeHook = none)
    {id : NodeId}
    (hMeaning :
      ∀ node,
        tree.get? id = some node →
        node.kind.bearsToken = true →
          ∃ token, tree.meaning host config id = .ok token) :
    tree.faultAt id = none := by
  cases hFault : tree.faultAt id with
  | none => rfl
  | some error =>
      rcases exists_element_of_faultAt hFault with
        ⟨node, content, hNode, hKind, hError⟩
      rcases hMeaning node hNode (by rw [hKind]; rfl) with
        ⟨token, hToken⟩
      rw [hWell.meaning_eq host config hNode, hKind] at hToken
      rcases exists_of_bind_eq_ok hToken with
        ⟨resolved, hResolved, hRest⟩
      rcases exists_of_bind_eq_ok hRest with
        ⟨lowered, hLower, _⟩
      have hNone :=
        Element.lower_fault config resolved (tree.scopeOf id)
      rw [hLower, transformAttribute_eq_id hPlain,
        ElementNode.fault?_eq hResolved, hError] at hNone
      cases hNone

end LastFault

/- A node refers to another one. -/
def Refers
    (tree : Tree T)
    (id target : NodeId) : Prop :=
  (id, target) ∈ tree.links

/- Descendants come later. -/
theorem WellFormed.lt_descendant
    {tree : Tree T}
    (hWell : tree.WellFormed)
    {id other : NodeId}
    (hBelow : Relation.TransGen tree.Refers id other) :
    id < other := by
  induction hBelow with
  | single hLink => exact hWell.later _ hLink
  | tail hFirst hLink ih =>
      exact Nat.lt_trans ih (hWell.later _ hLink)

/-
  Lowering a well-formed arena without attribute transforms
  fails just if some element is at fault by itself, whatever
  the tokens are and whether or not anything refers to it.
  The error is that of the last element at fault, so all
  descendants of this element are free of faults.
-/
theorem lowerAll_reports_last_fault
    (host : Host T)
    (config : Config T)
    (tree : Tree T)
    (hBuilt : tree.Built)
    (hWell : tree.WellFormed)
    (hPlain : config.attributeHook = none) :
    ((∃ error, tree.lowerAll host config = .error error) ↔
      ∃ id error, tree.blank.faultAt id = some error) ∧
    ∀ error,
      tree.lowerAll host config = .error error →
        ∃ id,
          tree.blank.faultAt id = some error ∧
          (∀ later,
            id < later → tree.blank.faultAt later = none) ∧
          ∀ other,
            Relation.TransGen tree.Refers id other →
              tree.blank.faultAt other = none := by
  simp only [faultAt_blank]
  rcases
      lowerAll_progress hWell hBuilt.root_is_code host config with
    ⟨token, hRun, _, hAll⟩ | ⟨id, error, hLast, hRun⟩
  · have hNone : ∀ id, tree.faultAt id = none := by
      intro id
      apply faultAt_eq_none hWell hPlain
      exact hAll id
    refine ⟨⟨?_, ?_⟩, ?_⟩
    · rintro ⟨error, hError⟩
      rw [hRun] at hError
      cases hError
    · rintro ⟨id, error, hFault⟩
      rw [hNone id] at hFault
      cases hFault
    · intro error hError
      rw [hRun] at hError
      cases hError
  · have hFault := hLast.faultAt_eq hPlain
    have hLater :
        ∀ later, id < later → tree.faultAt later = none := by
      intro later hLt
      apply faultAt_eq_none hWell hPlain
      intro node hNode hBears
      exact hLast.later later node hLt hNode hBears
    refine ⟨⟨fun _ => ⟨id, error, hFault⟩, fun _ => ⟨_, hRun⟩⟩, ?_⟩
    intro other hOther
    rw [hRun] at hOther
    cases hOther
    refine ⟨id, hFault, hLater, ?_⟩
    intro below hBelow
    exact hLater below (hWell.lt_descendant hBelow)

/-
  An element with an attribute of an unknown kind around a
  component outside all declarations, before an element that
  nothing refers to.
-/
def twofold : Tree String :=
  let tree := Tree.ofSpan ⟨0, 40⟩
  let (outer, tree) :=
    tree.addElement Tree.root ⟨7, 30⟩
      ⟨.identifier "p",
        [⟨some "id", .other "Mystery", ⟨10, 16⟩⟩],
        [.element 2], true⟩
  let (_, tree) :=
    tree.addElement outer ⟨17, 25⟩
      ⟨.identifier "Card", [], [], false⟩
  let (_, tree) :=
    tree.addElement Tree.root ⟨31, 36⟩
      ⟨.identifier "i", [], [], false⟩
  tree.setCode Tree.root [.node outer, .token ";"]

theorem twofold_built : twofold.Built :=
  (((Built.ofSpan _).addElement _ _ _).addElement _ _ _).addElement
    _ _ _ |>.setCode _ _

theorem lowerAll_reports_last_fault_twofold :
    twofold.Built ∧ twofold.WellFormed ∧
      twofold.blank.faultAt 1 =
        some (.placed (.unhandledValue "Mystery") ⟨10, 16⟩) ∧
      twofold.lowerAll Host.text
          ⟨"rt", "T", "T", false, true, none, none⟩ =
        .error (.placed (.noContext "Card") ⟨17, 25⟩) ∧
      ∃ id,
        twofold.blank.faultAt id =
            some (.placed (.noContext "Card") ⟨17, 25⟩) ∧
          ∀ later,
            id < later → twofold.blank.faultAt later = none := by
  have hWell : twofold.WellFormed := by decide
  have hRun :
      twofold.lowerAll Host.text
          ⟨"rt", "T", "T", false, true, none, none⟩ =
        .error (.placed (.noContext "Card") ⟨17, 25⟩) := by
    decide +kernel
  rcases
      (lowerAll_reports_last_fault Host.text
        ⟨"rt", "T", "T", false, true, none, none⟩ twofold
        twofold_built hWell rfl).2 _ hRun with
    ⟨id, hFault, hLater, _⟩
  exact
    ⟨twofold_built, hWell, by decide +kernel, hRun, id, hFault,
      hLater⟩

end Tree

end MarkupLowering
