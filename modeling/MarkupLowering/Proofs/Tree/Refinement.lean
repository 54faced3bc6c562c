import MarkupLowering.Proofs.Tree.Taking

/-
  This file shows that lowering an arena in place, from the
  last node to the first, computes what its nodes mean.

  The invariant of the loop speaks of the nodes on both sides
  of a bound.  Below it nothing has changed.  From it on every
  piece of code and every element means something, and those
  that no later node refers to hold what they mean; the others
  have been taken by the node that refers to them.

  Key definitions include:
    * `Tree.elementsBelow`
    * `Tree.Progress`

  Key theorems include:
    * `Tree.Progress.step`
    * `Tree.lowerNode_progress`
    * `Tree.lowerBelow_progress`
    * `Tree.lowerAll_refines_meaning`
-/

namespace MarkupLowering

namespace Tree

variable {T : Type}

------------------------------------------------------------
-- Counting Elements
------------------------------------------------------------

/- The number of elements below a bound. -/
def elementsBelow
    (tree : Tree T)
    (bound : NodeId) : Nat :=
  (tree.nodes.toList.take bound).countP
    fun node => node.kind.isElement

/- The number of elements. -/
def elementCount (tree : Tree T) : Nat :=
  tree.nodes.toList.countP fun node => node.kind.isElement

/- What a node adds to the number of elements. -/
def elementWeight (kind : NodeKind T) : Nat :=
  if kind.isElement then 1 else 0

theorem elementsBelow_succ
    {tree : Tree T}
    {id : NodeId}
    {node : Node T}
    (hNode : tree.get? id = some node) :
    tree.elementsBelow (id + 1) =
      tree.elementsBelow id + elementWeight node.kind := by
  have hList : tree.nodes.toList[id]? = some node := by
    simpa [get?] using hNode
  unfold elementsBelow elementWeight
  rw [List.take_add_one, hList, List.countP_append]
  simp [List.countP_cons]

theorem elementsBelow_size
    (tree : Tree T) :
    tree.elementsBelow tree.size = tree.elementCount := by
  unfold elementsBelow elementCount size
  rw [← Array.length_toList, List.take_length]

------------------------------------------------------------
-- The Invariant
------------------------------------------------------------

section Progress

variable {host : Host T}
variable {config : Config T}

/-
  How far lowering has come: `now` is what has become of
  `tree` when the nodes from `bound` on are done.
-/
structure Progress
    (host : Host T)
    (config : Config T)
    (tree now : Tree T)
    (bound : NodeId) : Prop where
  frame : now.SameFrame tree
  raw : ∀ id, id < bound → now.get? id = tree.get? id
  settled :
    ∀ id node,
      bound ≤ id →
      tree.get? id = some node →
      node.kind.bearsToken = true →
        ∃ token,
          tree.meaning host config id = .ok token ∧
            (id ∉ tree.targetsFrom bound →
              ∃ held,
                now.get? id = some held ∧
                  held.kind = .lowered token)

variable {tree now : Tree T}

/- Before the first step there is nothing to be said. -/
theorem Progress.start
    (host : Host T)
    (config : Config T)
    (tree : Tree T) :
    Progress host config tree tree tree.size where
  frame := SameFrame.refl tree
  raw _ _ := rfl
  settled _ _ hBound hNode _ :=
    absurd (lt_size_of_get? hNode) (Nat.not_lt.mpr hBound)

/-
  The targets of the node at the bound hold their tokens:
  they come later, and only this node refers to them.
-/
theorem Progress.ready
    (hWell : tree.WellFormed)
    {id : NodeId}
    {node : Node T}
    (hProgress : Progress host config tree now (id + 1))
    (hNode : tree.get? id = some node) :
    Ready tree.spanOf (tree.meaning host config)
      (now.setKind id .consumed) node.kind.targets where
  nodup := hWell.targets_nodup hNode
  holds target hTarget := by
    have hLater : id < target := hWell.lt_target hNode hTarget
    have hBears := hWell.target_bears hNode hTarget
    rcases (bearsTokenAt_iff _ _).mp hBears with
      ⟨other, hOther, hOtherBears⟩
    rcases
        hProgress.settled target other hLater hOther
          hOtherBears with
      ⟨token, hToken, hHeld⟩
    rcases hHeld (hWell.disjoint_targetsFrom hNode hTarget) with
      ⟨held, hGet, hKind⟩
    refine ⟨held, token, ?_, hKind, ?_, hToken⟩
    · rw [get?_setKind_ne now _ (Nat.ne_of_lt hLater)]
      exact hGet
    · have hFrame := hProgress.frame target
      rw [hGet, hOther] at hFrame
      simp only [Option.map_some, Option.some.injEq,
        Node.frame, Prod.mk.injEq] at hFrame
      simp [spanOf, hOther, hFrame.2.1]

/-
  Once the node at the bound has taken its tokens and holds
  its own, the bound moves to it.
-/
theorem Progress.step
    (hWell : tree.WellFormed)
    {id : NodeId}
    {node : Node T}
    {token : T}
    (hProgress : Progress host config tree now (id + 1))
    (hNode : tree.get? id = some node)
    (hBears : node.kind.bearsToken = true)
    (hToken : tree.meaning host config id = .ok token) :
    Progress host config tree
      (((now.setKind id .consumed).consumeAll
        node.kind.targets).setKind id (.lowered token)) id := by
  have hReady := hProgress.ready hWell hNode
  have hNow : now.get? id = some node :=
    (hProgress.raw id (Nat.lt_succ_self id)).trans hNode
  have hOld : node.kind.enclosure? = none :=
    NodeKind.enclosure?_of_bearsToken hBears
  have hSelf : id ∉ node.kind.targets := by
    intro hTarget
    exact Nat.lt_irrefl id (hWell.lt_target hNode hTarget)
  have hHeld :
      ((now.setKind id .consumed).consumeAll
        node.kind.targets).get? id =
        some { node with kind := .consumed } := by
    rw [get?_consumeAll _ hSelf]
    exact get?_setKind_self now _ hNow
  -- Besides the node itself only its targets are touched.
  have hOther :
      ∀ other,
        id ≠ other →
        other ∉ node.kind.targets →
          (((now.setKind id .consumed).consumeAll
            node.kind.targets).setKind id
              (.lowered token)).get? other =
            now.get? other := by
    intro other hNe hNotMem
    rw [get?_setKind_ne _ _ hNe, get?_consumeAll _ hNotMem,
      get?_setKind_ne _ _ hNe]
  refine ⟨?_, ?_, ?_⟩
  · have hFirst :
        (now.setKind id .consumed).SameFrame now :=
      SameFrame.setKind hNow hOld rfl
    have hBefore := hReady.sameFrame.trans
      (hFirst.trans hProgress.frame)
    exact (SameFrame.setKind hHeld rfl rfl).trans hBefore
  · intro other hLt
    have hNotMem : other ∉ node.kind.targets := by
      intro hTarget
      exact
        Nat.lt_asymm hLt (hWell.lt_target hNode hTarget)
    rw [hOther other (Nat.ne_of_gt hLt) hNotMem]
    exact hProgress.raw other (Nat.lt_succ_of_lt hLt)
  · intro other otherNode hBound hOtherNode hOtherBears
    rcases Nat.eq_or_lt_of_le hBound with hEq | hLt
    · subst hEq
      exact
        ⟨token, hToken, fun _ =>
          ⟨_, get?_setKind_self _ _ hHeld, rfl⟩⟩
    · rcases
          hProgress.settled other otherNode hLt hOtherNode
            hOtherBears with
        ⟨otherToken, hOtherToken, hHolds⟩
      refine ⟨otherToken, hOtherToken, ?_⟩
      intro hNotMem
      rw [targetsFrom_eq hNode, List.mem_append,
        not_or] at hNotMem
      rw [hOther other (Nat.ne_of_lt hLt) hNotMem.1]
      exact hHolds hNotMem.2

/- A node without a token of its own is passed over. -/
theorem Progress.skip
    {id : NodeId}
    {node : Node T}
    (hProgress : Progress host config tree now (id + 1))
    (hNode : tree.get? id = some node)
    (hBears : node.kind.bearsToken = false) :
    Progress host config tree now id where
  frame := hProgress.frame
  raw other hLt := hProgress.raw other (Nat.lt_succ_of_lt hLt)
  settled other otherNode hBound hOtherNode hOtherBears := by
    have hNe : id ≠ other := by
      intro hEq
      subst hEq
      rw [hNode] at hOtherNode
      cases hOtherNode
      rw [hBears] at hOtherBears
      cases hOtherBears
    have hLt : id + 1 ≤ other :=
      Nat.lt_of_le_of_ne hBound hNe
    rcases
        hProgress.settled other otherNode hLt hOtherNode
          hOtherBears with
      ⟨token, hToken, hHolds⟩
    have hTargets :
        tree.targetsFrom id = tree.targetsFrom (id + 1) := by
      rw [targetsFrom_eq hNode, NodeKind.targets_eq_nil hBears]
      rfl
    exact ⟨token, hToken, by rw [hTargets]; exact hHolds⟩

------------------------------------------------------------
-- One Node
------------------------------------------------------------

/-
  Lowering the node at the bound gives its meaning and puts it
  in place, or fails as its meaning does.
-/
theorem lowerNode_progress
    (hWell : tree.WellFormed)
    {id : NodeId}
    {node : Node T}
    (hProgress : Progress host config tree now (id + 1))
    (hNode : tree.get? id = some node)
    (hBears : node.kind.bearsToken = true) :
    now.lowerNode host config id =
      (tree.meaning host config id).map fun token =>
        (((now.setKind id .consumed).consumeAll
            node.kind.targets).setKind id (.lowered token),
          elementWeight node.kind) := by
  have hReady := hProgress.ready hWell hNode
  have hNow : now.get? id = some node :=
    (hProgress.raw id (Nat.lt_succ_self id)).trans hNode
  rw [hWell.meaning_eq host config hNode]
  rcases NodeKind.code_or_element hBears with
    ⟨parts, hKind⟩ | ⟨content, hKind⟩
  · rw [hKind] at hReady
    rcases takeParts_ready node.span parts hReady with
      ⟨tokens, hTokens, hTake⟩
    simp only [lowerNode, hNow, hKind, hTake,
      NodeKind.meaning, hTokens]
    rfl
  · rw [hKind] at hReady
    rcases takeElement_ready node.span content hReady with
      ⟨resolved, hResolved, hTake⟩
    have hHeld :
        (now.setKind id .consumed).SameFrame now :=
      SameFrame.setKind hNow (by rw [hKind]; rfl) rfl
    have hScope :
        (now.setKind id .consumed).scopeOf id =
          tree.scopeOf id :=
      scopeOf_eq_of_sameFrame (hHeld.trans hProgress.frame) id
    simp only [lowerNode, hNow, hKind, hTake, hScope,
      NodeKind.meaning, hResolved, bind, Except.bind]
    cases resolved.lower config (tree.scopeOf id) with
    | error error => rfl
    | ok lowered => rfl

/- Lowering passes over a node without a token of its own. -/
theorem lowerNode_skip
    {id : NodeId}
    {node : Node T}
    (hNode : now.get? id = some node)
    (hBears : node.kind.bearsToken = false) :
    now.lowerNode host config id =
      .ok (now, elementWeight node.kind) := by
  simp only [lowerNode, hNode]
  cases hKind : node.kind with
  | code parts =>
      rw [hKind] at hBears
      cases hBears
  | element content =>
      rw [hKind] at hBears
      cases hBears
  | scope enclosure => rfl
  | lowered token => rfl
  | consumed => rfl

/-
  A node that means nothing while all later ones mean
  something: an element that cannot be lowered itself.
-/
structure LastFault
    (host : Host T)
    (config : Config T)
    (tree : Tree T)
    (id : NodeId)
    (error : LowerError) : Prop where
  fails : tree.meaning host config id = .error error
  unlowered :
    ∃ node content resolved,
      tree.get? id = some node ∧
        node.kind = .element content ∧
        content.withTokens tree.spanOf
          (tree.meaning host config) node.span = .ok resolved ∧
        resolved.lower config (tree.scopeOf id) = .error error
  later :
    ∀ other node,
      id < other →
      tree.get? other = some node →
      node.kind.bearsToken = true →
        ∃ token, tree.meaning host config other = .ok token

theorem Progress.lastFault
    (hWell : tree.WellFormed)
    {id : NodeId}
    {node : Node T}
    {error : LowerError}
    (hProgress : Progress host config tree now (id + 1))
    (hNode : tree.get? id = some node)
    (hBears : node.kind.bearsToken = true)
    (hError : tree.meaning host config id = .error error) :
    LastFault host config tree id error where
  fails := hError
  later other otherNode hLt hOther hOtherBears := by
    rcases
        hProgress.settled other otherNode hLt hOther
          hOtherBears with
      ⟨token, hToken, _⟩
    exact ⟨token, hToken⟩
  unlowered := by
    have hReady := hProgress.ready hWell hNode
    rw [hWell.meaning_eq host config hNode] at hError
    rcases NodeKind.code_or_element hBears with
      ⟨parts, hKind⟩ | ⟨content, hKind⟩
    · rw [hKind] at hReady hError
      rcases takeParts_ready node.span parts hReady with
        ⟨tokens, hTokens, _⟩
      simp only [NodeKind.meaning, hTokens] at hError
      cases hError
    · rw [hKind] at hReady hError
      rcases takeElement_ready node.span content hReady with
        ⟨resolved, hResolved, _⟩
      refine ⟨node, content, resolved, hNode, hKind,
        hResolved, ?_⟩
      simp only [NodeKind.meaning, hResolved, bind,
        Except.bind] at hError
      cases hLower :
          resolved.lower config (tree.scopeOf id) with
      | error cause =>
          rw [hLower] at hError
          cases hError
          rfl
      | ok lowered =>
          rw [hLower] at hError
          cases hError

------------------------------------------------------------
-- The Loop
------------------------------------------------------------

/-
  Lowering all nodes below the bound settles them and counts
  the elements among them, or stops at the last one that means
  nothing.
-/
theorem lowerBelow_progress
    (hWell : tree.WellFormed)
    (bound : NodeId)
    (hBound : bound ≤ tree.size)
    (hProgress : Progress host config tree now bound)
    (count : Nat) :
    (∃ final,
      lowerBelow host config bound now count =
          .ok (final, count + tree.elementsBelow bound) ∧
        Progress host config tree final 0) ∨
    ∃ id error,
      LastFault host config tree id error ∧
        lowerBelow host config bound now count =
          .error error := by
  induction bound generalizing now count with
  | zero =>
      refine Or.inl ⟨now, ?_, hProgress⟩
      simp [lowerBelow, elementsBelow]
  | succ id ih =>
      have hId : id ≤ tree.size := Nat.le_of_succ_le hBound
      rcases tree.get?_eq_some_of_lt hBound with ⟨node, hNode⟩
      cases hBears : node.kind.bearsToken with
      | false =>
          have hNow : now.get? id = some node :=
            (hProgress.raw id (Nat.lt_succ_self id)).trans hNode
          have hStep :
              now.lowerNode host config id =
                .ok (now, elementWeight node.kind) :=
            lowerNode_skip hNow hBears
          rw [elementsBelow_succ hNode,
            Nat.add_comm (tree.elementsBelow id),
            ← Nat.add_assoc]
          simp only [lowerBelow, hStep, bind, Except.bind]
          exact ih hId (hProgress.skip hNode hBears) _
      | true =>
          have hStep :=
            lowerNode_progress hWell hProgress hNode hBears
          cases hMeaning : tree.meaning host config id with
          | error error =>
              refine Or.inr ⟨id, error, ?_, ?_⟩
              · exact
                  hProgress.lastFault hWell hNode hBears hMeaning
              · simp only [lowerBelow, hStep, hMeaning]
                rfl
          | ok token =>
              have hNext :=
                hProgress.step hWell hNode hBears hMeaning
              rw [hMeaning] at hStep
              rw [elementsBelow_succ hNode,
                Nat.add_comm (tree.elementsBelow id),
                ← Nat.add_assoc]
              simp only [lowerBelow, hStep, Except.map, bind,
                Except.bind]
              exact ih hId hNext _

/-
  Lowering an arena gives what its first node means and the
  number of its elements, or stops at the last fault.
-/
theorem lowerAll_progress
    (hWell : tree.WellFormed)
    (hRoot : tree.RootIsCode)
    (host : Host T)
    (config : Config T) :
    (∃ token,
      tree.lowerAll host config =
          .ok ⟨token, tree.elementCount⟩ ∧
        tree.meaning host config Tree.root = .ok token ∧
        ∀ id node,
          tree.get? id = some node →
          node.kind.bearsToken = true →
            ∃ token, tree.meaning host config id = .ok token) ∨
    ∃ id error,
      LastFault host config tree id error ∧
        tree.lowerAll host config = .error error := by
  rcases
      lowerBelow_progress hWell tree.size (Nat.le_refl _)
        (Progress.start host config tree) 0 with
    ⟨final, hRun, hFinal⟩ | ⟨id, error, hFault, hRun⟩
  · rcases hRoot with ⟨node, parts, hNode, hKind⟩
    have hBears : node.kind.bearsToken = true := by
      rw [hKind]
      rfl
    rcases
        hFinal.settled Tree.root node (Nat.zero_le _) hNode
          hBears with
      ⟨token, hToken, hHolds⟩
    rcases hHolds (hWell.not_mem_targetsFrom (Nat.le_refl _)) with
      ⟨⟨parent, span, kind⟩, hHeld, hHeldKind⟩
    dsimp only at hHeldKind
    subst hHeldKind
    refine Or.inl ⟨token, ?_, hToken, ?_⟩
    · rw [elementsBelow_size, Nat.zero_add] at hRun
      simp only [lowerAll, hRun, bind, Except.bind, hHeld]
      rfl
    · intro id other hOther hOtherBears
      rcases
          hFinal.settled id other (Nat.zero_le _) hOther
            hOtherBears with
        ⟨token, hToken, _⟩
      exact ⟨token, hToken⟩
  · refine Or.inr ⟨id, error, hFault, ?_⟩
    simp only [lowerAll, hRun]
    rfl

end Progress

------------------------------------------------------------
-- Lowering Refines Meaning
------------------------------------------------------------

/-
  Lowering a well-formed arena succeeds just when every
  element in it means something, also one that nothing refers
  to.  It then gives what the whole module means and has
  lowered every element.
-/
theorem lowerAll_refines_meaning
    (host : Host T)
    (config : Config T)
    (tree : Tree T)
    (hBuilt : tree.Built)
    (hWell : tree.WellFormed) :
    ((∃ output, tree.lowerAll host config = .ok output) ↔
      ∀ id node,
        tree.get? id = some node →
        node.kind.isElement = true →
          ∃ token, tree.meaning host config id = .ok token) ∧
    ∀ output,
      tree.lowerAll host config = .ok output →
        tree.meaning host config Tree.root = .ok output.root ∧
          output.elementsLowered = tree.elementCount := by
  rcases
      lowerAll_progress hWell hBuilt.root_is_code host config with
    ⟨token, hRun, hRoot, hAll⟩ | ⟨id, error, hFault, hRun⟩
  · refine ⟨⟨fun _ id node hNode hElement => ?_, fun _ => ?_⟩, ?_⟩
    · exact
        hAll id node hNode
          (NodeKind.bearsToken_of_isElement hElement)
    · exact ⟨_, hRun⟩
    · intro output hOutput
      rw [hRun] at hOutput
      cases hOutput
      exact ⟨hRoot, rfl⟩
  · refine ⟨⟨fun hOk => ?_, fun hAll => ?_⟩, ?_⟩
    · rcases hOk with ⟨output, hOutput⟩
      rw [hRun] at hOutput
      cases hOutput
    · rcases hFault.unlowered with
        ⟨node, content, resolved, hNode, hKind, _, _⟩
      rcases hAll id node hNode (by rw [hKind]; rfl) with
        ⟨token, hToken⟩
      rw [hFault.fails] at hToken
      cases hToken
    · intro output hOutput
      rw [hRun] at hOutput
      cases hOutput

/-
  A function that returns an element with a dynamic attribute
  and a component in it, beside an element that nothing refers
  to.
-/
def nested : Tree String :=
  let tree := Tree.ofSpan ⟨0, 40⟩
  let (scope, tree) :=
    tree.addScope Tree.root ⟨0, 40⟩
      (.ofFunction ⟨some "f", false⟩)
  let (outer, tree) :=
    tree.addElement scope ⟨7, 35⟩
      ⟨.identifier "p",
        [⟨some "id", .expression 3, ⟨10, 16⟩⟩],
        [.text "hi" ⟨17, 19⟩, .element 4], true⟩
  let (code, tree) := tree.addCode outer ⟨14, 15⟩
  let (_, tree) :=
    tree.addElement outer ⟨19, 27⟩
      ⟨.identifier "Card", [], [], false⟩
  let (_, tree) :=
    tree.addElement scope ⟨36, 40⟩
      ⟨.identifier "i", [], [], false⟩
  let tree := tree.setCode code [.token "x"]
  tree.setCode Tree.root
    [.token "return ", .node outer, .token ";"]

theorem nested_built : nested.Built :=
  (((((Built.ofSpan _).addScope _ _ _).addElement _ _ _).addCode
    _ _).addElement _ _ _).addElement _ _ _
    |>.setCode _ _ |>.setCode _ _

theorem lowerAll_refines_meaning_nested :
    nested.Built ∧ nested.WellFormed ∧
      nested.meaning Host.text
          ⟨"rt", "T", "T", false, true, none, none⟩ Tree.root =
        .ok ("return new T([\"<p id=\\\"\", \"\\\">hi\", "
          ++ "\"</p>\"], [x, Card(\x7b\x7d)]);") ∧
      nested.elementCount = 3 := by
  have hWell : nested.WellFormed := by decide
  have hRun :
      nested.lowerAll Host.text
          ⟨"rt", "T", "T", false, true, none, none⟩ =
        .ok ⟨"return new T([\"<p id=\\\"\", \"\\\">hi\", "
          ++ "\"</p>\"], [x, Card(\x7b\x7d)]);", 3⟩ := by
    decide +kernel
  have hResult :=
    (lowerAll_refines_meaning Host.text
      ⟨"rt", "T", "T", false, true, none, none⟩ nested
      nested_built hWell).2 _ hRun
  exact ⟨nested_built, hWell, hResult.1, hResult.2.symm⟩

end Tree

end MarkupLowering
