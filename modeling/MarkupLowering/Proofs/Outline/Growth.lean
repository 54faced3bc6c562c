import MarkupLowering.Proofs.Tree.Links

/-
  This file describes arenas that grow by whole pieces.

  A sprout is a run of new nodes in which every node refers
  only to later ones.  Each piece of code and each element of
  it is referred to once from inside, or is one of the pending
  nodes, which wait for a reference from outside.  Sprouts can
  be put one after the other, and a node that takes up all
  pending ones makes a sprout with a single pending node:
  itself.

  Key definitions include:
    * `ElementNode.Tidy`
    * `bearers`
    * `Sprout`
    * `Tree.Grown`

  Key theorems include:
    * `Sprout.append`
    * `Sprout.enclose`
    * `Tree.Grown.trans`
    * `Tree.Grown.enclose`
-/

namespace MarkupLowering

variable {T : Type}

------------------------------------------------------------
-- Tidy Nodes
------------------------------------------------------------

/- The value is of a kind that is not known. -/
def AttributeSlot.isOther : AttributeSlot → Bool
  | .other _ => true
  | _ => false

/-
  An element as source text gives it: no value is of a kind
  that is not known, and without a closing tag there are no
  children.
-/
structure ElementNode.Tidy (element : ElementNode) : Prop where
  known :
    ∀ attr ∈ element.attributes, attr.slot.isOther = false
  closed :
    element.hasClosingTag = false → element.children = []

/- A node as source text gives it. -/
def NodeKind.Tidy : NodeKind T → Prop
  | .code _ => True
  | .scope _ => True
  | .element content => content.Tidy
  | .lowered _ => False
  | .consumed => False

theorem NodeKind.Tidy.isFresh
    {kind : NodeKind T}
    (hTidy : kind.Tidy) :
    kind.isFresh = true := by
  cases kind with
  | code parts => rfl
  | scope enclosure => rfl
  | element content => rfl
  | lowered token => cases hTidy
  | consumed => cases hTidy

------------------------------------------------------------
-- Bearers
------------------------------------------------------------

/-
  The numbers of the nodes of a run that are code or elements,
  if the run begins at a number.
-/
def bearers : NodeId → List (Node T) → List NodeId
  | _, [] => []
  | base, node :: rest =>
      if node.kind.bearsToken then
        base :: bearers (base + 1) rest
      else
        bearers (base + 1) rest

theorem bearers_append
    (base : NodeId)
    (first second : List (Node T)) :
    bearers base (first ++ second) =
      bearers base first ++
        bearers (base + first.length) second := by
  induction first generalizing base with
  | nil => rfl
  | cons node first ih =>
      have hBase :
          base + 1 + first.length =
            base + (node :: first).length := by
        rw [List.length_cons]
        exact Nat.add_right_comm base 1 first.length
      simp only [List.cons_append, bearers, ih, hBase]
      split <;> rfl

theorem mem_bearers_cons
    (base id : NodeId)
    (node : Node T)
    (rest : List (Node T)) :
    id ∈ bearers base (node :: rest) ↔
      (node.kind.bearsToken = true ∧ id = base) ∨
        id ∈ bearers (base + 1) rest := by
  simp only [bearers]
  split
  · rename_i hBears
    simp [hBears]
  · rename_i hBears
    simp [hBears]

theorem mem_bearers_iff
    (base id : NodeId)
    (nodes : List (Node T)) :
    id ∈ bearers base nodes ↔
      ∃ index node,
        nodes[index]? = some node ∧
          node.kind.bearsToken = true ∧
          id = base + index := by
  induction nodes generalizing base with
  | nil => simp [bearers]
  | cons first rest ih =>
      have hShift (index : Nat) :
          base + 1 + index = base + (index + 1) := by
        rw [Nat.add_assoc, Nat.add_comm 1]
      rw [mem_bearers_cons, ih]
      constructor
      · rintro (⟨hBears, hId⟩ | ⟨index, node, hNode, hBears, hId⟩)
        · exact ⟨0, first, rfl, hBears, hId⟩
        · exact
            ⟨index + 1, node, hNode, hBears,
              hId.trans (hShift index)⟩
      · rintro ⟨index, node, hNode, hBears, hId⟩
        cases index with
        | zero =>
            cases hNode
            exact Or.inl ⟨hBears, hId⟩
        | succ index =>
            exact
              Or.inr
                ⟨index, node, hNode, hBears,
                  hId.trans (hShift index).symm⟩

theorem le_of_mem_bearers
    {base id : NodeId}
    {nodes : List (Node T)}
    (hMember : id ∈ bearers base nodes) :
    base ≤ id := by
  rcases (mem_bearers_iff base id nodes).mp hMember with
    ⟨index, _, _, _, hId⟩
  rw [hId]
  exact Nat.le_add_right base index

theorem bearers_nodup
    (base : NodeId)
    (nodes : List (Node T)) :
    (bearers base nodes).Nodup := by
  induction nodes generalizing base with
  | nil => exact List.nodup_nil
  | cons node rest ih =>
      simp only [bearers]
      split
      · refine List.nodup_cons.mpr ⟨?_, ih (base + 1)⟩
        intro hMember
        exact
          Nat.not_succ_le_self base
            (le_of_mem_bearers hMember)
      · exact ih (base + 1)

------------------------------------------------------------
-- Sprouts
------------------------------------------------------------

/- The targets of all references in a run of nodes. -/
def targetsOf (nodes : List (Node T)) : List NodeId :=
  nodes.flatMap fun node => node.kind.targets

/-
  A run of nodes that begins at a number, with the nodes of it
  that nothing in it refers to.
-/
structure Sprout
    (base : NodeId)
    (nodes : List (Node T))
    (pending : List NodeId) : Prop where
  parents :
    ∀ index node,
      nodes[index]? = some node →
        ∃ parent,
          node.parent = some parent ∧ parent < base + index
  later :
    ∀ index node,
      nodes[index]? = some node →
        ∀ target ∈ node.kind.targets, base + index < target
  owned : (targetsOf nodes ++ pending).Perm (bearers base nodes)
  tidy : ∀ node ∈ nodes, node.kind.Tidy

namespace Sprout

theorem nil (base : NodeId) :
    Sprout base ([] : List (Node T)) [] where
  parents _ _ hNode := by cases hNode
  later _ _ hNode := by cases hNode
  owned := List.Perm.refl []
  tidy _ hNode := by cases hNode

/- Each pending node belongs to the run. -/
theorem le_of_pending
    {base id : NodeId}
    {nodes : List (Node T)}
    {pending : List NodeId}
    (hSprout : Sprout base nodes pending)
    (hPending : id ∈ pending) :
    base ≤ id :=
  le_of_mem_bearers
    (hSprout.owned.mem_iff.mp
      (List.mem_append_right _ hPending))

/- Sprouts can be put one after the other. -/
theorem append
    {base : NodeId}
    {first second : List (Node T)}
    {pending others : List NodeId}
    (hFirst : Sprout base first pending)
    (hSecond : Sprout (base + first.length) second others) :
    Sprout base (first ++ second) (pending ++ others) where
  parents index node hNode := by
    rcases Nat.lt_or_ge index first.length with hLt | hGe
    · rw [List.getElem?_append_left hLt] at hNode
      exact hFirst.parents index node hNode
    · rw [List.getElem?_append_right hGe] at hNode
      rcases hSecond.parents _ node hNode with
        ⟨parent, hParent, hLt⟩
      rw [Nat.add_assoc, Nat.add_sub_cancel' hGe] at hLt
      exact ⟨parent, hParent, hLt⟩
  later index node hNode target hTarget := by
    rcases Nat.lt_or_ge index first.length with hLt | hGe
    · rw [List.getElem?_append_left hLt] at hNode
      exact hFirst.later index node hNode target hTarget
    · rw [List.getElem?_append_right hGe] at hNode
      have hLater :=
        hSecond.later _ node hNode target hTarget
      rw [Nat.add_assoc, Nat.add_sub_cancel' hGe] at hLater
      exact hLater
  owned := by
    rw [bearers_append]
    have hBoth := hFirst.owned.append hSecond.owned
    refine List.Perm.trans ?_ hBoth
    simp only [targetsOf, List.flatMap_append,
      List.append_assoc]
    refine List.Perm.append_left _ ?_
    simp only [← List.append_assoc]
    refine List.Perm.append_right _ ?_
    exact List.perm_append_comm
  tidy node hNode := by
    rcases List.mem_append.mp hNode with hLeft | hRight
    · exact hFirst.tidy node hLeft
    · exact hSecond.tidy node hRight

/- A sprout with a node in front of it. -/
theorem cons
    {base parent : NodeId}
    {nodes : List (Node T)}
    {pending others : List NodeId}
    {kind : NodeKind T}
    (hSprout : Sprout (base + 1) nodes pending)
    (hParent : parent < base)
    (span : Span)
    (hLater : ∀ target ∈ kind.targets, base < target)
    (hOwned :
      (kind.targets ++ targetsOf nodes ++ others).Perm
        (bearers base (⟨some parent, span, kind⟩ :: nodes)))
    (hTidy : kind.Tidy) :
    Sprout base (⟨some parent, span, kind⟩ :: nodes) others where
  parents index node hNode := by
    cases index with
    | zero =>
        cases hNode
        exact ⟨parent, rfl, hParent⟩
    | succ index =>
        have hRest := hSprout.parents index node hNode
        rw [Nat.add_assoc, Nat.add_comm 1] at hRest
        exact hRest
  later index node hNode target hTarget := by
    cases index with
    | zero =>
        cases hNode
        exact hLater target hTarget
    | succ index =>
        have hRest :=
          hSprout.later index node hNode target hTarget
        rw [Nat.add_assoc, Nat.add_comm 1] at hRest
        exact hRest
  owned := hOwned
  tidy node hNode := by
    rcases List.mem_cons.mp hNode with hFirst | hRest
    · rw [hFirst]
      exact hTidy
    · exact hSprout.tidy node hRest

/- A declaration in front of a sprout changes nothing. -/
theorem declare
    {base parent : NodeId}
    {nodes : List (Node T)}
    {pending : List NodeId}
    (hSprout : Sprout (base + 1) nodes pending)
    (hParent : parent < base)
    (span : Span)
    (enclosure : Enclosure) :
    Sprout base (⟨some parent, span, .scope enclosure⟩ :: nodes)
      pending := by
  apply hSprout.cons hParent span
  · intro target hTarget
    cases hTarget
  · exact hSprout.owned
  · exact trivial

/- A node that takes up all pending nodes is pending itself. -/
theorem enclose
    {base parent : NodeId}
    {nodes : List (Node T)}
    {pending : List NodeId}
    {kind : NodeKind T}
    (hSprout : Sprout (base + 1) nodes pending)
    (hParent : parent < base)
    (span : Span)
    (hBears : kind.bearsToken = true)
    (hTidy : kind.Tidy)
    (hTargets : kind.targets.Perm pending) :
    Sprout base (⟨some parent, span, kind⟩ :: nodes) [base] := by
  apply hSprout.cons hParent span _ _ hTidy
  · intro target hTarget
    exact hSprout.le_of_pending (hTargets.mem_iff.mp hTarget)
  · simp only [bearers, hBears, if_true]
    refine (List.perm_append_singleton base _).trans ?_
    refine List.Perm.cons base ?_
    refine List.Perm.trans ?_ hSprout.owned
    exact
      (hTargets.append_right _).trans List.perm_append_comm

end Sprout

------------------------------------------------------------
-- Growing Arenas
------------------------------------------------------------

namespace Tree

/- An arena with a sprout added at its end. -/
def Grown
    (old new : Tree T)
    (pending : List NodeId) : Prop :=
  ∃ added,
    new.nodes.toList = old.nodes.toList ++ added ∧
      Sprout old.size added pending

namespace Grown

theorem refl (tree : Tree T) : tree.Grown tree [] :=
  ⟨[], (List.append_nil _).symm, Sprout.nil _⟩

theorem size_eq
    {old new : Tree T}
    {added : List (Node T)}
    (hNodes :
      new.nodes.toList = old.nodes.toList ++ added) :
    new.size = old.size + added.length := by
  have hLength := congrArg List.length hNodes
  simpa [size] using hLength

theorem size_le
    {old new : Tree T}
    {pending : List NodeId}
    (hGrown : old.Grown new pending) :
    old.size ≤ new.size := by
  rcases hGrown with ⟨added, hNodes, _⟩
  rw [size_eq hNodes]
  exact Nat.le_add_right _ _

/- What was there before stays. -/
theorem get?_eq
    {old new : Tree T}
    {pending : List NodeId}
    {id : NodeId}
    (hGrown : old.Grown new pending)
    (hLt : id < old.size) :
    new.get? id = old.get? id := by
  rcases hGrown with ⟨added, hNodes, _⟩
  have hLength : id < old.nodes.toList.length := by
    simpa [size] using hLt
  simp only [get?, ← Array.getElem?_toList]
  rw [hNodes, List.getElem?_append_left hLength]

theorem trans
    {first second third : Tree T}
    {pending others : List NodeId}
    (hFirst : first.Grown second pending)
    (hSecond : second.Grown third others) :
    first.Grown third (pending ++ others) := by
  rcases hFirst with ⟨added, hNodes, hSprout⟩
  rcases hSecond with ⟨more, hMore, hSprout'⟩
  refine ⟨added ++ more, ?_, ?_⟩
  · rw [hMore, hNodes, List.append_assoc]
  · rw [size_eq hNodes] at hSprout'
    exact hSprout.append hSprout'

end Grown

------------------------------------------------------------
-- Added Nodes
------------------------------------------------------------

theorem push_toList
    (tree : Tree T)
    (parent : NodeId)
    (span : Span)
    (kind : NodeKind T) :
    (tree.push parent span kind).2.nodes.toList =
      tree.nodes.toList ++ [⟨some parent, span, kind⟩] := by
  simp [push]

theorem size_push
    (tree : Tree T)
    (parent : NodeId)
    (span : Span)
    (kind : NodeKind T) :
    (tree.push parent span kind).2.size = tree.size + 1 := by
  simp [push, size]

theorem lt_size_push
    (tree : Tree T)
    (parent : NodeId)
    (span : Span)
    (kind : NodeKind T) :
    tree.size < (tree.push parent span kind).2.size := by
  rw [size_push]
  exact Nat.lt_succ_self _

theorem get?_push
    (tree : Tree T)
    (parent : NodeId)
    (span : Span)
    (kind : NodeKind T) :
    (tree.push parent span kind).2.get? tree.size =
      some ⟨some parent, span, kind⟩ := by
  simp [push, size, get?]

/- Below an added declaration an arena grows as without it. -/
theorem Grown.declare
    {tree new : Tree T}
    {parent : NodeId}
    {pending : List NodeId}
    {span : Span}
    {enclosure : Enclosure}
    (hGrown :
      (tree.push parent span (.scope enclosure)).2.Grown new
        pending)
    (hParent : parent < tree.size) :
    tree.Grown new pending := by
  rcases hGrown with ⟨added, hNodes, hSprout⟩
  rw [push_toList, List.append_assoc] at hNodes
  rw [size_push] at hSprout
  exact
    ⟨_, hNodes, hSprout.declare hParent span enclosure⟩

/- The item right after a list, changed. -/
private theorem modify_at_length
    {α : Type}
    (change : α → α)
    (left right : List α)
    (item : α) :
    (left ++ item :: right).modify left.length change =
      left ++ change item :: right := by
  induction left with
  | nil => rfl
  | cons first left ih =>
      rw [List.cons_append, List.length_cons,
        List.modify_succ_cons, ih, List.cons_append]

/-
  An added node that is given all pending nodes as targets is
  pending in their place.
-/
theorem Grown.enclose
    {tree new : Tree T}
    {parent : NodeId}
    {pending : List NodeId}
    {span : Span}
    {before kind : NodeKind T}
    (hGrown :
      (tree.push parent span before).2.Grown new pending)
    (hParent : parent < tree.size)
    (hBears : kind.bearsToken = true)
    (hTidy : kind.Tidy)
    (hTargets : kind.targets.Perm pending) :
    tree.Grown (new.setKind tree.size kind) [tree.size] := by
  rcases hGrown with ⟨added, hNodes, hSprout⟩
  rw [push_toList, List.append_assoc] at hNodes
  rw [size_push] at hSprout
  refine
    ⟨⟨some parent, span, kind⟩ :: added, ?_,
      hSprout.enclose hParent span hBears hTidy hTargets⟩
  simp only [setKind, Array.toList_modify, hNodes, size,
    ← Array.length_toList]
  exact modify_at_length _ tree.nodes.toList added _

end Tree

end MarkupLowering
