import MarkupLowering.Proofs.Tree.Spending

/-
  This file follows the lowering of an arbitrary arena from
  the last node to the first.

  Every stage of it is orderly.  The nodes that are still to
  be lowered are as they were built.  The others have got what
  they need from later nodes, which are code or elements, and
  no two of them from the same one.

  Key definitions include:
    * `Tree.Reaches`
    * `Tree.needs`
    * `Tree.Orderly`

  Key theorems include:
    * `Tree.Orderly.step`
    * `Tree.Reaches.orderly`
    * `Tree.lowerBelow_ok`
    * `Tree.lowerBelow_error`
    * `Tree.lowerAll_meets_needs`
-/

namespace MarkupLowering

variable {T : Type}

namespace Tree

------------------------------------------------------------
-- Stages
------------------------------------------------------------

/-
  The stages of the lowering of an arena: what it has become
  when the nodes from a bound on are done.
-/
inductive Reaches
    (host : Host T)
    (config : Config T)
    (tree : Tree T) : Tree T → NodeId → Prop
  | start : Reaches host config tree tree tree.size
  | step
      {now next : Tree T}
      {id more : Nat}
      (hNow : Reaches host config tree now (id + 1))
      (hStep :
        now.lowerNode host config id = .ok (next, more)) :
      Reaches host config tree next id

theorem Reaches.le_size
    {host : Host T}
    {config : Config T}
    {tree now : Tree T}
    {bound : NodeId}
    (hReaches : Reaches host config tree now bound) :
    bound ≤ tree.size := by
  induction hReaches with
  | start => exact Nat.le_refl _
  | step hNow hStep ih => exact Nat.le_of_succ_le ih

------------------------------------------------------------
-- Order
------------------------------------------------------------

/- What the nodes from a number on need. -/
def needsFrom
    (tree : Tree T)
    (bound : NodeId) : List NodeId :=
  (tree.nodes.toList.drop bound).flatMap
    fun node => node.kind.needs

/- What all nodes need. -/
def needs (tree : Tree T) : List NodeId :=
  tree.needsFrom 0

theorem needsFrom_eq
    {tree : Tree T}
    {id : NodeId}
    {node : Node T}
    (hNode : tree.get? id = some node) :
    tree.needsFrom id =
      node.kind.needs ++ tree.needsFrom (id + 1) :=
  flatMap_drop_eq (fun node => node.kind.needs) hNode

theorem needsFrom_size
    (tree : Tree T) :
    tree.needsFrom tree.size = [] := by
  unfold needsFrom size
  rw [← Array.length_toList, List.drop_length]
  rfl

/- The node comes later than the one that needs it. -/
def Supplies
    (tree : Tree T)
    (id target : NodeId) : Prop :=
  id < target ∧ tree.bearsTokenAt target = true

/-
  A stage of lowering is orderly when the nodes below the
  bound are untouched, those from it on have their needs met
  by different later nodes, and a token that is still held has
  not been needed.
-/
structure Orderly
    (tree now : Tree T)
    (bound : NodeId) : Prop where
  stage : now.StageOf tree
  raw : ∀ id, id < bound → now.get? id = tree.get? id
  held :
    ∀ id,
      now.HoldsToken id →
        bound ≤ id ∧
          tree.bearsTokenAt id = true ∧
          id ∉ tree.needsFrom bound
  met :
    ∀ id node,
      bound ≤ id →
      tree.get? id = some node →
        ∀ target ∈ node.kind.needs, tree.Supplies id target
  single : (tree.needsFrom bound).Nodup

namespace Orderly

variable {tree now next : Tree T}

theorem start
    (hFresh : tree.Fresh) :
    Orderly tree tree tree.size where
  stage := StageOf.refl tree
  raw _ _ := rfl
  held id hHeld := by
    rcases hHeld with ⟨node, token, hNode, hKind⟩
    have hNodeFresh := hFresh id node hNode
    rw [hKind] at hNodeFresh
    cases hNodeFresh
  met id node hBound hNode :=
    absurd (lt_size_of_get? hNode) (Nat.not_lt.mpr hBound)
  single := by
    rw [needsFrom_size]
    exact List.nodup_nil

/- What is needed from a bound on comes after the bound. -/
theorem lt_of_mem_needsFrom
    {bound target : NodeId}
    (hOrderly : Orderly tree now bound)
    (hTarget : target ∈ tree.needsFrom bound) :
    bound < target := by
  rcases List.mem_flatMap.mp hTarget with
    ⟨node, hMember, hNeeds⟩
  rcases List.mem_iff_getElem?.mp hMember with
    ⟨index, hIndex⟩
  rw [List.getElem?_drop] at hIndex
  have hNode : tree.get? (bound + index) = some node := by
    simpa [get?] using hIndex
  have hSupplies :=
    hOrderly.met (bound + index) node (Nat.le_add_right _ _)
      hNode target hNeeds
  exact Nat.lt_of_le_of_lt (Nat.le_add_right _ _) hSupplies.1

/- A declaration needs nothing and gives nothing. -/
theorem skip
    {id : NodeId}
    {node : Node T}
    (hOrderly : Orderly tree now (id + 1))
    (hNode : tree.get? id = some node)
    (hBears : node.kind.bearsToken = false) :
    Orderly tree now id := by
  have hNeeds : tree.needsFrom id = tree.needsFrom (id + 1) := by
    rw [needsFrom_eq hNode, NodeKind.needs_eq_nil hBears]
    rfl
  refine ⟨hOrderly.stage, ?_, ?_, ?_, ?_⟩
  · intro other hLt
    exact hOrderly.raw other (Nat.lt_succ_of_lt hLt)
  · intro other hHeld
    rcases hOrderly.held other hHeld with
      ⟨hBound, hOther, hFree⟩
    rw [hNeeds]
    exact ⟨Nat.le_of_succ_le hBound, hOther, hFree⟩
  · intro other otherNode hBound hOther
    rcases Nat.eq_or_lt_of_le hBound with hEq | hLt
    · subst hEq
      rw [hNode] at hOther
      cases hOther
      rw [NodeKind.needs_eq_nil hBears]
      intro target hTarget
      cases hTarget
    · exact hOrderly.met other otherNode hLt hOther
  · rw [hNeeds]
    exact hOrderly.single

/- What is spent is a later node that nothing has needed. -/
theorem of_spent
    {id target : NodeId}
    {ids : List NodeId}
    {middle : Tree T}
    (hOrderly : Orderly tree now (id + 1))
    (hSpends : Spends (now.setKind id .consumed) ids middle)
    (hTarget : target ∈ ids) :
    tree.Supplies id target ∧
      target ∉ tree.needsFrom (id + 1) := by
  have hHeld : (now.consumeAll [id]).HoldsToken target :=
    hSpends.held target hTarget
  rw [holdsToken_consumeAll_iff] at hHeld
  rcases hOrderly.held target hHeld.1 with
    ⟨hLater, hBears, hFree⟩
  exact ⟨⟨hLater, hBears⟩, hFree⟩

/-
  A node that is lowered gets all it needs from later nodes
  whose tokens have not been needed so far.
-/
theorem met_lower
    {id : NodeId}
    {node : Node T}
    {ids : List NodeId}
    {middle : Tree T}
    (hOrderly : Orderly tree now (id + 1))
    (hNode : tree.get? id = some node)
    (hSpends : Spends (now.setKind id .consumed) ids middle)
    (hNeeds : node.kind.needs.Sublist ids) :
    (∀ other otherNode,
      id ≤ other →
      tree.get? other = some otherNode →
        ∀ target ∈ otherNode.kind.needs,
          tree.Supplies other target) ∧
    (tree.needsFrom id).Nodup := by
  refine ⟨?_, ?_⟩
  · intro other otherNode hBound hOther target hTarget
    rcases Nat.eq_or_lt_of_le hBound with hEq | hLt
    · subst hEq
      rw [hNode] at hOther
      cases hOther
      exact
        (hOrderly.of_spent hSpends (hNeeds.mem hTarget)).1
    · exact
        hOrderly.met other otherNode hLt hOther target hTarget
  · rw [needsFrom_eq hNode]
    refine
      List.nodup_append.mpr
        ⟨hNeeds.nodup hSpends.nodup, hOrderly.single, ?_⟩
    intro left hLeft right hRight hSame
    subst hSame
    exact
      (hOrderly.of_spent hSpends (hNeeds.mem hLeft)).2 hRight

/- Lowering a node that is code or an element keeps order. -/
theorem lower
    {id : NodeId}
    {node : Node T}
    {ids : List NodeId}
    {middle : Tree T}
    (token : T)
    (hOrderly : Orderly tree now (id + 1))
    (hNode : tree.get? id = some node)
    (hBears : node.kind.bearsToken = true)
    (hSpends : Spends (now.setKind id .consumed) ids middle)
    (hNeeds : node.kind.needs.Sublist ids) :
    Orderly tree (middle.setKind id (.lowered token)) id := by
  have hNow : now.get? id = some node :=
    (hOrderly.raw id (Nat.lt_succ_self id)).trans hNode
  rcases hOrderly.met_lower hNode hSpends hNeeds with
    ⟨hMet, hSingle⟩
  refine ⟨?_, ?_, ?_, hMet, hSingle⟩
  · exact
      (hSpends.stageOf_lowered token hNow hBears).trans
        hOrderly.stage
  · intro other hLt
    have hFree : other ∉ ids := by
      intro hTarget
      exact
        Nat.lt_asymm hLt
          (hOrderly.of_spent hSpends hTarget).1.1
    rw [hSpends.get?_other token (Nat.ne_of_gt hLt) hFree]
    exact hOrderly.raw other (Nat.lt_succ_of_lt hLt)
  · intro other hHeld
    rw [needsFrom_eq hNode, List.mem_append, not_or]
    by_cases hSelf : id = other
    · -- Nothing from the node on needs the node itself.
      subst hSelf
      refine ⟨Nat.le_refl _, ?_, ?_, ?_⟩
      · exact
          (bearsTokenAt_iff tree id).mpr ⟨node, hNode, hBears⟩
      · intro hTarget
        exact
          Nat.lt_irrefl id
            (hMet id node (Nat.le_refl _) hNode id hTarget).1
      · intro hTarget
        exact
          Nat.not_succ_le_self id
            (Nat.le_of_lt (hOrderly.lt_of_mem_needsFrom hTarget))
    · rcases hSpends.holdsToken_other hSelf hHeld with
        ⟨hBefore, hFree⟩
      rcases hOrderly.held other hBefore with
        ⟨hBound, hOther, hUnneeded⟩
      exact
        ⟨Nat.le_of_succ_le hBound, hOther,
          fun hTarget => hFree (hNeeds.mem hTarget), hUnneeded⟩

/- One step of lowering keeps order. -/
theorem step
    {id : NodeId}
    {node : Node T}
    (hOrderly : Orderly tree now (id + 1))
    (hNode : tree.get? id = some node)
    (hStep : Steps now id node next) :
    Orderly tree next id := by
  cases hStep with
  | skip hBears => exact hOrderly.skip hNode hBears
  | lower token hBears hSpends hNeeds =>
      exact
        hOrderly.lower token hNode hBears hSpends hNeeds

end Orderly

------------------------------------------------------------
-- Runs
------------------------------------------------------------

section Runs

variable {host : Host T}
variable {config : Config T}
variable {tree now : Tree T}

/- The next node of an orderly stage, and what it is made of. -/
theorem Orderly.exists_node
    {id : NodeId}
    (hOrderly : Orderly tree now (id + 1))
    (hSize : id + 1 ≤ tree.size) :
    ∃ node,
      tree.get? id = some node ∧ now.get? id = some node := by
  rcases tree.get?_eq_some_of_lt hSize with ⟨node, hNode⟩
  exact
    ⟨node, hNode,
      (hOrderly.raw id (Nat.lt_succ_self id)).trans hNode⟩

/- Every stage of lowering is orderly. -/
theorem Reaches.orderly
    {bound : NodeId}
    (hReaches : Reaches host config tree now bound)
    (hFresh : tree.Fresh) :
    Orderly tree now bound := by
  induction hReaches with
  | start => exact Orderly.start hFresh
  | step hNow hStep ih =>
      rcases ih.exists_node hNow.le_size with
        ⟨node, hNode, hSame⟩
      exact ih.step hNode (steps_of_lowerNode hSame hStep).1

/- A run that succeeds goes through all stages. -/
theorem lowerBelow_ok
    {bound : NodeId}
    {final : Tree T}
    {count total : Nat}
    (hReaches : Reaches host config tree now bound)
    (hFresh : tree.Fresh)
    (hRun :
      lowerBelow host config bound now count =
        .ok (final, total)) :
    Reaches host config tree final 0 ∧
      total = count + tree.elementsBelow bound := by
  induction bound generalizing now count with
  | zero =>
      cases hRun
      exact ⟨hReaches, by simp [elementsBelow]⟩
  | succ id ih =>
      rcases exists_of_bind_eq_ok hRun with
        ⟨⟨next, more⟩, hStep, hRest⟩
      rcases
          (hReaches.orderly hFresh).exists_node
            hReaches.le_size with
        ⟨node, hNode, hSame⟩
      rcases ih (hReaches.step hStep) hRest with
        ⟨hFinal, hTotal⟩
      refine ⟨hFinal, ?_⟩
      rw [hTotal, (steps_of_lowerNode hSame hStep).2,
        elementsBelow_succ hNode]
      omega

/- A run that fails does so at one of its stages. -/
theorem lowerBelow_error
    {bound : NodeId}
    {count : Nat}
    {error : LowerError}
    (hReaches : Reaches host config tree now bound)
    (hRun :
      lowerBelow host config bound now count = .error error) :
    ∃ id stage,
      Reaches host config tree stage (id + 1) ∧
        stage.lowerNode host config id = .error error := by
  induction bound generalizing now count with
  | zero => cases hRun
  | succ id ih =>
      cases hStep : now.lowerNode host config id with
      | error cause =>
          simp only [lowerBelow, hStep] at hRun
          cases hRun
          exact ⟨id, now, hReaches, hStep⟩
      | ok result =>
          rcases result with ⟨next, more⟩
          simp only [lowerBelow, hStep] at hRun
          exact ih (hReaches.step hStep) hRun

/- Lowering an arena succeeds if all its stages do. -/
theorem lowerAll_ok
    {output : LoweredTree T}
    (hFresh : tree.Fresh)
    (hRun : tree.lowerAll host config = .ok output) :
    ∃ final,
      Reaches host config tree final 0 ∧
        output.elementsLowered = tree.elementCount := by
  rcases exists_of_bind_eq_ok hRun with
    ⟨⟨final, total⟩, hBelow, hRest⟩
  rcases lowerBelow_ok Reaches.start hFresh hBelow with
    ⟨hFinal, hTotal⟩
  refine ⟨final, hFinal, ?_⟩
  rw [elementsBelow_size, Nat.zero_add] at hTotal
  dsimp only at hRest
  split at hRest
  · cases hRest
    exact hTotal
  · cases hRest
  · cases hRest

end Runs

------------------------------------------------------------
-- Needs Are Met
------------------------------------------------------------

/-
  An arena that was built in any way and could be lowered had
  its references in order.  All elements were lowered.  Every
  node is supplied by later pieces of code and elements with
  all it needs, and no two of these needs are met by the same
  node.  Beyond its needs a node refers to nothing but, if it
  is a component, to child elements.
-/
theorem lowerAll_meets_needs
    (host : Host T)
    (config : Config T)
    (tree : Tree T)
    (output : LoweredTree T)
    (hBuilt : tree.Built)
    (hRun : tree.lowerAll host config = .ok output) :
    output.elementsLowered = tree.elementCount ∧
      tree.needs.Nodup ∧
      ∀ id node,
        tree.get? id = some node →
          (∀ target ∈ node.kind.needs,
            id < target ∧ tree.bearsTokenAt target = true) ∧
          ∀ target ∈ node.kind.targets,
            target ∈ node.kind.needs ∨
              ∃ content,
                node.kind = .element content ∧
                  content.tag.isComponent = true ∧
                  .element target ∈ content.children := by
  rcases lowerAll_ok hBuilt.fresh hRun with
    ⟨final, hFinal, hCount⟩
  have hOrderly := hFinal.orderly hBuilt.fresh
  refine ⟨hCount, hOrderly.single, ?_⟩
  intro id node hNode
  refine ⟨?_, ?_⟩
  · exact hOrderly.met id node (Nat.zero_le _) hNode
  · intro target hTarget
    exact NodeKind.mem_needs_or hTarget

/-
  A component whose child elements are missing, the module,
  the component itself, and the same element twice.
-/
def spare : Tree String :=
  let tree := Tree.ofSpan ⟨0, 40⟩
  let (scope, tree) :=
    tree.addScope Tree.root ⟨0, 40⟩
      (.ofFunction ⟨some "f", false⟩)
  let (card, tree) :=
    tree.addElement scope ⟨7, 35⟩
      ⟨.identifier "Card",
        [⟨some "id", .expression 3, ⟨10, 16⟩⟩],
        [.element 9, .element 0, .element 2, .element 4,
          .element 4], true⟩
  let (code, tree) := tree.addCode card ⟨14, 15⟩
  let (_, tree) :=
    tree.addElement card ⟨19, 27⟩
      ⟨.identifier "i", [], [], false⟩
  let tree := tree.setCode code [.token "x"]
  tree.setCode Tree.root
    [.token "return ", .node card, .token ";"]

theorem spare_built : spare.Built :=
  ((((Built.ofSpan _).addScope _ _ _).addElement _ _ _).addCode
    _ _).addElement _ _ _
    |>.setCode _ _ |>.setCode _ _

theorem lowerAll_meets_needs_spare :
    spare.Built ∧ ¬spare.WellFormed ∧
      spare.lowerAll Host.text
          ⟨"rt", "T", "T", false, true, none, none⟩ =
        .ok ⟨"return Card({ id: x });", 2⟩ ∧
      spare.elementCount = 2 ∧
      spare.needs = [2, 3] ∧
      spare.bearsTokenAt 3 = true := by
  have hRun :
      spare.lowerAll Host.text
          ⟨"rt", "T", "T", false, true, none, none⟩ =
        .ok ⟨"return Card({ id: x });", 2⟩ := by
    decide +kernel
  have hResult :=
    lowerAll_meets_needs Host.text
      ⟨"rt", "T", "T", false, true, none, none⟩ spare _
      spare_built hRun
  refine
    ⟨spare_built, by decide, hRun, hResult.1.symm,
      by decide +kernel, ?_⟩
  exact
    ((hResult.2.2 2 _ rfl).1 3 (by decide +kernel)).2

end Tree

end MarkupLowering
