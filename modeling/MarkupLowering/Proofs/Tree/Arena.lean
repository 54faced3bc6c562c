import MarkupLowering.Tree

/-
  This file says what the operations on an arena do to the
  node of a number, and what the scope of a node depends on.

  The frame of a node is what a change of its kind leaves
  alone, as long as no declaration comes or goes: the parent
  link, the place and the declaration.  Scopes are read off
  frames only.

  Key definitions include:
    * `Node.frame`
    * `Tree.SameFrame`
    * `Tree.Built`
    * `Tree.Fresh`

  Key theorems include:
    * `Tree.get?_setKind`
    * `Tree.scopeOf_eq_of_sameFrame`
    * `Tree.Built.root_is_code`
    * `Tree.Built.fresh`
-/

namespace MarkupLowering

------------------------------------------------------------
-- Kinds
------------------------------------------------------------

namespace NodeKind

variable {T : Type}

/- The node is an element that is still to be lowered. -/
def isElement : NodeKind T → Bool
  | .element _ => true
  | _ => false

/- The node is code or an element: lowering gives it a token. -/
def bearsToken : NodeKind T → Bool
  | .code _ => true
  | .element _ => true
  | _ => false

/- The node has been neither lowered nor taken. -/
def isFresh : NodeKind T → Bool
  | .lowered _ => false
  | .consumed => false
  | _ => true

/- The declaration of a kind. -/
def enclosure? : NodeKind T → Option Enclosure
  | .scope enclosure => some enclosure
  | _ => none

theorem enclosure?_of_bearsToken
    {kind : NodeKind T}
    (hBears : kind.bearsToken = true) :
    kind.enclosure? = none := by
  cases kind with
  | code parts => rfl
  | element element => rfl
  | scope enclosure => cases hBears
  | lowered token => cases hBears
  | consumed => cases hBears

theorem code_or_element
    {kind : NodeKind T}
    (hBears : kind.bearsToken = true) :
    (∃ parts, kind = .code parts) ∨
      ∃ content, kind = .element content := by
  cases kind with
  | code parts => exact Or.inl ⟨parts, rfl⟩
  | element content => exact Or.inr ⟨content, rfl⟩
  | scope enclosure => cases hBears
  | lowered token => cases hBears
  | consumed => cases hBears

theorem bearsToken_of_isElement
    {kind : NodeKind T}
    (hElement : kind.isElement = true) :
    kind.bearsToken = true := by
  cases kind with
  | element content => rfl
  | code parts => rfl
  | scope enclosure => cases hElement
  | lowered token => cases hElement
  | consumed => cases hElement

end NodeKind

------------------------------------------------------------
-- Nodes by Number
------------------------------------------------------------

namespace Tree

variable {T : Type}

@[simp] theorem size_setKind
    (tree : Tree T)
    (id : NodeId)
    (kind : NodeKind T) :
    (tree.setKind id kind).size = tree.size := by
  simp [setKind, size]

/- Only the node whose kind is set changes. -/
theorem get?_setKind
    (tree : Tree T)
    (id other : NodeId)
    (kind : NodeKind T) :
    (tree.setKind id kind).get? other =
      if id = other then
        (tree.get? other).map
          fun node => { node with kind := kind }
      else
        tree.get? other := by
  simp only [setKind, get?]
  exact Array.getElem?_modify

theorem get?_setKind_ne
    (tree : Tree T)
    {id other : NodeId}
    (kind : NodeKind T)
    (hNe : id ≠ other) :
    (tree.setKind id kind).get? other = tree.get? other := by
  rw [get?_setKind, if_neg hNe]

theorem get?_setKind_self
    (tree : Tree T)
    {id : NodeId}
    {node : Node T}
    (kind : NodeKind T)
    (hNode : tree.get? id = some node) :
    (tree.setKind id kind).get? id =
      some { node with kind := kind } := by
  rw [get?_setKind, if_pos rfl, hNode]
  rfl

theorem get?_push_eq
    (tree : Tree T)
    (parent : NodeId)
    (span : Span)
    (kind : NodeKind T)
    (id : NodeId) :
    (tree.push parent span kind).2.get? id =
      if id = tree.size then
        some ⟨some parent, span, kind⟩
      else
        tree.get? id := by
  simp only [push, get?, size]
  exact Array.getElem?_push

theorem get?_eq_some_of_lt
    (tree : Tree T)
    {id : NodeId}
    (hLt : id < tree.size) :
    ∃ node, tree.get? id = some node :=
  ⟨tree.nodes[id], Array.getElem?_eq_getElem hLt⟩

theorem lt_size_of_get?
    {tree : Tree T}
    {id : NodeId}
    {node : Node T}
    (hNode : tree.get? id = some node) :
    id < tree.size :=
  (Array.getElem?_eq_some_iff.mp hNode).choose

end Tree

------------------------------------------------------------
-- Frames
------------------------------------------------------------

namespace Node

variable {T : Type}

/- What the scopes of other nodes and all reports depend on. -/
def frame
    (node : Node T) :
    Option NodeId × Span × Option Enclosure :=
  (node.parent, node.span, node.enclosure?)

theorem enclosure?_eq
    (node : Node T) :
    node.enclosure? = node.kind.enclosure? := by
  unfold enclosure? NodeKind.enclosure?
  cases node.kind <;> rfl

end Node

namespace Tree

variable {T : Type}

/- Two arenas have the same nodes up to tokens. -/
def SameFrame (left right : Tree T) : Prop :=
  ∀ id,
    (left.get? id).map Node.frame =
      (right.get? id).map Node.frame

namespace SameFrame

theorem refl (tree : Tree T) : tree.SameFrame tree :=
  fun _ => rfl

theorem trans
    {first second third : Tree T}
    (hFirst : first.SameFrame second)
    (hSecond : second.SameFrame third) :
    first.SameFrame third :=
  fun id => (hFirst id).trans (hSecond id)

/- Setting a kind keeps the frame if no declaration is touched. -/
theorem setKind
    {tree : Tree T}
    {id : NodeId}
    {node : Node T}
    {kind : NodeKind T}
    (hNode : tree.get? id = some node)
    (hOld : node.kind.enclosure? = none)
    (hNew : kind.enclosure? = none) :
    (tree.setKind id kind).SameFrame tree := by
  intro other
  by_cases hId : id = other
  · subst hId
    rw [get?_setKind_self tree kind hNode, hNode]
    simp [Node.frame, Node.enclosure?_eq, hOld, hNew]
  · rw [get?_setKind_ne tree kind hId]

/- The node of a number, seen from the other arena. -/
theorem get?_some
    {left right : Tree T}
    (hFrame : left.SameFrame right)
    {id : NodeId}
    {node : Node T}
    (hNode : right.get? id = some node) :
    ∃ other,
      left.get? id = some other ∧
        other.frame = node.frame := by
  have hMap := hFrame id
  rw [hNode] at hMap
  exact Option.map_eq_some_iff.mp hMap

end SameFrame

------------------------------------------------------------
-- Scopes
------------------------------------------------------------

/- Chains of parent links show only what the frames hold. -/
theorem map_enclosure?_chainFrom_eq
    {left right : Tree T}
    (hFrame : left.SameFrame right)
    (limit : Nat)
    (next? : Option NodeId) :
    (left.chainFrom limit next?).map Node.enclosure? =
      (right.chainFrom limit next?).map Node.enclosure? := by
  induction limit generalizing next? with
  | zero => rfl
  | succ limit ih =>
      cases next? with
      | none => rfl
      | some id =>
          have hMap := hFrame id
          cases hRight : right.get? id with
          | none =>
              rw [hRight] at hMap
              have hLeft : left.get? id = none :=
                Option.map_eq_none_iff.mp hMap
              simp [chainFrom, hLeft, hRight]
          | some node =>
              rcases hFrame.get?_some hRight with
                ⟨other, hLeft, hSame⟩
              simp only [Node.frame, Prod.mk.injEq] at hSame
              rcases hSame with ⟨hParent, _, hEnclosure⟩
              simp only [chainFrom, hLeft, hRight,
                List.map_cons, hEnclosure, hParent]
              rw [ih]

/- The scope of a node depends on frames only. -/
theorem scopeOf_eq_of_sameFrame
    {left right : Tree T}
    (hFrame : left.SameFrame right)
    (id : NodeId) :
    left.scopeOf id = right.scopeOf id := by
  have hParent :
      (left.get? id).bind Node.parent =
        (right.get? id).bind Node.parent := by
    have hMap :=
      congrArg (Option.map Prod.fst) (hFrame id)
    cases hRight : right.get? id with
    | none =>
        rw [hRight] at hMap
        have hLeft : left.get? id = none := by
          simpa using hMap
        rw [hLeft]
    | some node =>
        rcases hFrame.get?_some hRight with
          ⟨other, hLeft, hSame⟩
        rw [hLeft]
        exact congrArg Prod.fst hSame
  unfold scopeOf ancestors
  rw [hParent, map_enclosure?_chainFrom_eq hFrame]

------------------------------------------------------------
-- Building
------------------------------------------------------------

/- The arenas that the building steps make. -/
inductive Built : Tree T → Prop
  | ofSpan (span : Span) :
      Built (.ofSpan span)
  | addCode
      {tree : Tree T}
      (hTree : Built tree)
      (parent : NodeId)
      (span : Span) :
      Built (tree.addCode parent span).2
  | addScope
      {tree : Tree T}
      (hTree : Built tree)
      (parent : NodeId)
      (span : Span)
      (enclosure : Enclosure) :
      Built (tree.addScope parent span enclosure).2
  | addElement
      {tree : Tree T}
      (hTree : Built tree)
      (parent : NodeId)
      (span : Span)
      (element : ElementNode) :
      Built (tree.addElement parent span element).2
  | setCode
      {tree : Tree T}
      (hTree : Built tree)
      (id : NodeId)
      (parts : List (CodePart T)) :
      Built (tree.setCode id parts)
  | editElement
      {tree : Tree T}
      (hTree : Built tree)
      (id : NodeId)
      (edit : ElementNode → ElementNode) :
      Built (tree.editElement id edit)

/- The first node is code. -/
def RootIsCode (tree : Tree T) : Prop :=
  ∃ node parts,
    tree.get? Tree.root = some node ∧
      node.kind = .code parts

namespace RootIsCode

theorem push
    {tree : Tree T}
    (hRoot : tree.RootIsCode)
    (parent : NodeId)
    (span : Span)
    (kind : NodeKind T) :
    (tree.push parent span kind).2.RootIsCode := by
  rcases hRoot with ⟨node, parts, hNode, hKind⟩
  refine ⟨node, parts, ?_, hKind⟩
  have hLt : Tree.root < tree.nodes.size :=
    lt_size_of_get? hNode
  rw [← hNode]
  exact Array.getElem?_push_lt hLt |>.trans
    (Array.getElem?_eq_getElem hLt).symm

theorem setCode
    {tree : Tree T}
    (hRoot : tree.RootIsCode)
    (id : NodeId)
    (parts : List (CodePart T)) :
    (tree.setCode id parts).RootIsCode := by
  rcases hRoot with ⟨node, old, hNode, hKind⟩
  by_cases hId : id = Tree.root
  · subst hId
    exact ⟨_, parts, get?_setKind_self tree _ hNode, rfl⟩
  · exact
      ⟨node, old,
        (get?_setKind_ne tree _ hId).trans hNode, hKind⟩

theorem editElement
    {tree : Tree T}
    (hRoot : tree.RootIsCode)
    (id : NodeId)
    (edit : ElementNode → ElementNode) :
    (tree.editElement id edit).RootIsCode := by
  unfold Tree.editElement
  split
  · rename_i parent span element hElement
    rcases hRoot with ⟨node, parts, hNode, hKind⟩
    have hId : id ≠ Tree.root := by
      intro hEq
      subst hEq
      rw [hElement] at hNode
      cases hNode
      cases hKind
    exact
      ⟨node, parts,
        (get?_setKind_ne tree _ hId).trans hNode, hKind⟩
  · exact hRoot

end RootIsCode

/- No building step makes the first node anything but code. -/
theorem Built.root_is_code
    {tree : Tree T}
    (hBuilt : tree.Built) :
    tree.RootIsCode := by
  induction hBuilt with
  | ofSpan span => exact ⟨_, [], rfl, rfl⟩
  | addCode hTree parent span ih =>
      exact ih.push parent span _
  | addScope hTree parent span enclosure ih =>
      exact ih.push parent span _
  | addElement hTree parent span element ih =>
      exact ih.push parent span _
  | setCode hTree id parts ih => exact ih.setCode id parts
  | editElement hTree id edit ih =>
      exact ih.editElement id edit

/- No node has been lowered or taken. -/
def Fresh (tree : Tree T) : Prop :=
  ∀ id node,
    tree.get? id = some node →
      node.kind.isFresh = true

namespace Fresh

variable {tree : Tree T}

theorem push
    (hFresh : tree.Fresh)
    (parent : NodeId)
    (span : Span)
    {kind : NodeKind T}
    (hKind : kind.isFresh = true) :
    (tree.push parent span kind).2.Fresh := by
  intro id node hNode
  rw [get?_push_eq] at hNode
  split at hNode
  · cases hNode
    exact hKind
  · exact hFresh id node hNode

theorem setKind
    (hFresh : tree.Fresh)
    (id : NodeId)
    {kind : NodeKind T}
    (hKind : kind.isFresh = true) :
    (tree.setKind id kind).Fresh := by
  intro other node hNode
  rw [get?_setKind] at hNode
  split at hNode
  · rcases Option.map_eq_some_iff.mp hNode with
      ⟨old, _, hSet⟩
    rw [← hSet]
    exact hKind
  · exact hFresh other node hNode

end Fresh

/- Building steps leave lowering to the rewriting. -/
theorem Built.fresh
    {tree : Tree T}
    (hBuilt : tree.Built) :
    tree.Fresh := by
  induction hBuilt with
  | ofSpan span =>
      intro id node hNode
      cases id with
      | zero =>
          cases hNode
          rfl
      | succ id => cases hNode
  | addCode hTree parent span ih =>
      exact ih.push parent span rfl
  | addScope hTree parent span enclosure ih =>
      exact ih.push parent span rfl
  | addElement hTree parent span element ih =>
      exact ih.push parent span rfl
  | setCode hTree id parts ih => exact ih.setKind id rfl
  | editElement hTree id edit ih =>
      unfold Tree.editElement
      split
      · exact ih.setKind id rfl
      · exact ih

end Tree

end MarkupLowering
