import MarkupLowering.Proofs.Tree.Runs

/-
  This file says which scope an element is lowered in, for an
  arena whose parent links may lead anywhere: nowhere, to a
  later node, to the node itself, or around a cycle.

  From a node, parent links make a chain that need not end.
  Its scope is the first declaration on this chain, as long as
  it is among the first hundred nodes.  No step of lowering
  changes a parent link or a declaration, so the scope is the
  same at every stage as it was at the start.

  Key definitions include:
    * `Tree.above`
    * `FirstDeclared`
    * `Tree.lowerElement`

  Key theorems include:
    * `Tree.ancestors_getElem?`
    * `Tree.scopeOf_firstDeclared`
    * `Tree.Reaches.keeps_elements`
    * `Tree.StageOf.lowerNode_eq`
    * `Tree.lowering_sees_first_declaration`
-/

namespace MarkupLowering

variable {T : Type}

------------------------------------------------------------
-- Chains
------------------------------------------------------------

namespace Tree

/-
  The node that parent links lead to from `next?` after a
  number of further hops, however large.
-/
def follow
    (tree : Tree T)
    (next? : Option NodeId) : Nat → Option (Node T)
  | 0 => next?.bind tree.get?
  | hops + 1 =>
      (tree.follow next? hops).bind fun node =>
        node.parent.bind tree.get?

/- The chain of parents of a node, from the nearest one on. -/
def above
    (tree : Tree T)
    (id : NodeId)
    (hops : Nat) : Option (Node T) :=
  tree.follow ((tree.get? id).bind Node.parent) hops

/- The declaration at a number of hops above a node. -/
def declaredAbove
    (tree : Tree T)
    (id : NodeId)
    (hops : Nat) : Option Enclosure :=
  (tree.above id hops).bind Node.enclosure?

/- A chain goes on from its first node. -/
theorem follow_succ
    (tree : Tree T)
    (next? : Option NodeId)
    (hops : Nat) :
    tree.follow next? (hops + 1) =
      (next?.bind tree.get?).bind fun node =>
        tree.follow node.parent hops := by
  induction hops with
  | zero => rfl
  | succ hops ih =>
      rw [follow, ih, Option.bind_assoc]
      rfl

theorem chainFrom_succ
    (tree : Tree T)
    (limit : Nat)
    (next? : Option NodeId) :
    tree.chainFrom (limit + 1) next? =
      match next?.bind tree.get? with
      | none => []
      | some node => node :: tree.chainFrom limit node.parent := by
  cases next? with
  | none => rfl
  | some id => rfl

/- A walk sees the first nodes of a chain and then stops. -/
theorem chainFrom_getElem?
    (tree : Tree T)
    (limit : Nat)
    (next? : Option NodeId)
    (hops : Nat) :
    (tree.chainFrom limit next?)[hops]? =
      if hops < limit then tree.follow next? hops else none := by
  induction limit generalizing next? hops with
  | zero => simp [chainFrom]
  | succ limit ih =>
      rw [chainFrom_succ]
      cases hNode : next?.bind tree.get? with
      | none =>
          -- A chain that ends here has no further node.
          have hEnd : tree.follow next? hops = none := by
            cases hops with
            | zero => exact hNode
            | succ hops =>
                rw [follow_succ, hNode]
                rfl
          simp [hEnd]
      | some node =>
          cases hops with
          | zero => simp [follow, hNode]
          | succ hops =>
              rw [follow_succ, hNode, List.getElem?_cons_succ, ih]
              simp

theorem ancestors_getElem?
    (tree : Tree T)
    (limit : Nat)
    (id : NodeId)
    (hops : Nat) :
    (tree.ancestors limit id)[hops]? =
      if hops < limit then tree.above id hops else none :=
  chainFrom_getElem? tree limit _ hops

end Tree

------------------------------------------------------------
-- First Declarations
------------------------------------------------------------

/-
  The scope is the first declaration within a number of hops,
  and unknown if there is none.
-/
def FirstDeclared
    (declared : Nat → Option Enclosure)
    (limit : Nat) : Scope → Prop
  | .within enclosure =>
      ∃ hops,
        hops < limit ∧
          declared hops = some enclosure ∧
          ∀ fewer, fewer < hops → declared fewer = none
  | .unknown => ∀ hops, hops < limit → declared hops = none

namespace FirstDeclared

variable {declared other : Nat → Option Enclosure}
variable {limit : Nat}
variable {scope : Scope}

/- What lies beyond the limit does not matter. -/
theorem congr
    (hFirst : FirstDeclared declared limit scope)
    (hSame :
      ∀ hops, hops < limit → other hops = declared hops) :
    FirstDeclared other limit scope := by
  cases scope with
  | unknown =>
      intro hops hLimit
      rw [hSame hops hLimit]
      exact hFirst hops hLimit
  | within enclosure =>
      rcases hFirst with ⟨hops, hLimit, hFound, hBefore⟩
      refine ⟨hops, hLimit, ?_, ?_⟩
      · rw [hSame hops hLimit]
        exact hFound
      · intro fewer hFewer
        rw [hSame fewer (Nat.lt_trans hFewer hLimit)]
        exact hBefore fewer hFewer

/- There is only one first declaration. -/
theorem unique
    {second : Scope}
    (hFirst : FirstDeclared declared limit scope)
    (hSecond : FirstDeclared declared limit second) :
    second = scope := by
  cases scope with
  | unknown =>
      cases second with
      | unknown => rfl
      | within enclosure =>
          rcases hSecond with ⟨hops, hLimit, hFound, _⟩
          rw [hFirst hops hLimit] at hFound
          cases hFound
  | within enclosure =>
      rcases hFirst with ⟨hops, hLimit, hFound, hBefore⟩
      cases second with
      | unknown =>
          rw [hSecond hops hLimit] at hFound
          cases hFound
      | within another =>
          rcases hSecond with
            ⟨others, _, hOther, hOtherBefore⟩
          have hNotLess : ¬others < hops := by
            intro hLess
            rw [hBefore others hLess] at hOther
            cases hOther
          have hNotMore : ¬hops < others := by
            intro hMore
            rw [hOtherBefore hops hMore] at hFound
            cases hFound
          have hSame : others = hops := by omega
          rw [hSame, hFound] at hOther
          cases hOther
          rfl

end FirstDeclared

/- Resolving a list finds its first declaration. -/
theorem resolve_firstDeclared
    (chain : List (Option Enclosure)) :
    FirstDeclared (fun hops => chain[hops]?.join) Scope.hopLimit
      (Scope.resolve chain) := by
  have hTake :
      ∀ hops,
        hops < Scope.hopLimit →
          chain[hops]? = (chain.take Scope.hopLimit)[hops]? := by
    intro hops hLimit
    exact (List.getElem?_take_of_lt hLimit).symm
  unfold Scope.resolve
  cases hFound : (chain.take Scope.hopLimit).findSome? id with
  | none =>
      intro hops hLimit
      dsimp only
      rw [hTake hops hLimit]
      cases hItem : (chain.take Scope.hopLimit)[hops]? with
      | none => rfl
      | some item =>
          exact
            List.findSome?_eq_none_iff.mp hFound item
              (List.mem_of_getElem? hItem)
  | some enclosure =>
      rcases List.findSome?_eq_some_iff.mp hFound with
        ⟨before, item, after, hSplit, hItem, hBefore⟩
      have hLimit : before.length < Scope.hopLimit := by
        have hLength := congrArg List.length hSplit
        rw [List.length_take, List.length_append,
          List.length_cons] at hLength
        omega
      refine ⟨before.length, hLimit, ?_, ?_⟩
      · dsimp only
        rw [hTake _ hLimit, hSplit]
        simpa using hItem
      · intro fewer hFewer
        dsimp only
        rw [hTake _ (Nat.lt_trans hFewer hLimit), hSplit,
          List.getElem?_append_left hFewer,
          List.getElem?_eq_getElem hFewer]
        exact hBefore _ (List.getElem_mem hFewer)

namespace Tree

/-
  The scope of a node is the first declaration within a
  hundred hops above it.
-/
theorem scopeOf_firstDeclared
    (tree : Tree T)
    (id : NodeId) :
    FirstDeclared (tree.declaredAbove id) 100
      (tree.scopeOf id) := by
  apply FirstDeclared.congr (resolve_firstDeclared _)
  intro hops hLimit
  have hSeen :=
    tree.ancestors_getElem? Scope.hopLimit id hops
  rw [if_pos hLimit] at hSeen
  rw [List.getElem?_map, hSeen]
  unfold declaredAbove
  cases tree.above id hops with
  | none => rfl
  | some node => rfl

------------------------------------------------------------
-- Stages of Any Arena
------------------------------------------------------------

section Stages

variable {host : Host T}
variable {config : Config T}
variable {tree now next : Tree T}
variable {id other : NodeId}
variable {node : Node T}

/- A step changes no frame and no other element. -/
theorem Steps.stageOf
    (hStep : Steps now id node next)
    (hNode : now.get? id = some node) :
    next.StageOf now := by
  cases hStep with
  | skip hBears => exact StageOf.refl now
  | lower token hBears hSpends hNeeds =>
      exact hSpends.stageOf_lowered token hNode hBears

/- Only nodes that hold tokens are spent, and no element does. -/
theorem Steps.keeps_element
    (hStep : Steps now id node next)
    (hNe : id ≠ other)
    {held : Node T}
    (hHeld : now.get? other = some held)
    (hElement : held.kind.isElement = true) :
    next.get? other = some held := by
  cases hStep with
  | skip hBears => exact hHeld
  | lower token hBears hSpends hNeeds =>
      rw [hSpends.get?_other token hNe]
      · exact hHeld
      · intro hSpent
        have hToken : (now.consumeAll [id]).HoldsToken other :=
          hSpends.held other hSpent
        rw [holdsToken_consumeAll_iff] at hToken
        rcases hToken.1 with ⟨found, token, hFound, hKind⟩
        rw [hHeld] at hFound
        cases hFound
        rw [hKind] at hElement
        cases hElement

/-
  Whatever arena lowering starts from, all frames stay, and so
  do the elements whose turn has not come.
-/
theorem Reaches.keeps_elements
    {bound : NodeId}
    (hReaches : Reaches host config tree now bound) :
    now.StageOf tree ∧
      ∀ id node,
        id < bound →
        tree.get? id = some node →
        node.kind.isElement = true →
          now.get? id = some node := by
  induction hReaches with
  | start => exact ⟨StageOf.refl tree, fun _ _ _ hNode _ => hNode⟩
  | @step now next id more hNow hStep ih =>
      rcases ih with ⟨hStage, hKept⟩
      rcases tree.get?_eq_some_of_lt hNow.le_size with
        ⟨first, hFirst⟩
      rcases hStage.frame.get?_some hFirst with
        ⟨current, hCurrent, _⟩
      have hSteps := (steps_of_lowerNode hCurrent hStep).1
      refine ⟨(hSteps.stageOf hCurrent).trans hStage, ?_⟩
      intro other node hLt hNode hElement
      exact
        hSteps.keeps_element (Nat.ne_of_gt hLt)
          (hKept other node (Nat.lt_succ_of_lt hLt) hNode
            hElement)
          hElement

/- Lower an element of the arena in a scope. -/
def lowerElement
    (host : Host T)
    (config : Config T)
    (tree : Tree T)
    (id : NodeId)
    (span : Span)
    (content : ElementNode)
    (scope : Scope) : Except LowerError (Tree T × Nat) := do
  let (resolved, next) ←
    (tree.setKind id .consumed).takeElement span content
  let lowered ← resolved.lower config scope
  return (next.setKind id (.lowered (host.emit lowered)), 1)

/- At every stage an element is lowered in its first scope. -/
theorem StageOf.lowerNode_eq
    (hStage : now.StageOf tree)
    (hNow : now.get? id = some node)
    {content : ElementNode}
    (hKind : node.kind = .element content) :
    now.lowerNode host config id =
      now.lowerElement host config id node.span content
        (tree.scopeOf id) := by
  have hHeld : (now.setKind id .consumed).SameFrame now := by
    apply SameFrame.setKind hNow
    · rw [hKind]
      rfl
    · rfl
  have hScope :
      (now.setKind id .consumed).scopeOf id =
        tree.scopeOf id :=
    scopeOf_eq_of_sameFrame (hHeld.trans hStage.frame) id
  simp only [lowerNode, hNow, hKind]
  rw [hScope]
  rfl

end Stages

------------------------------------------------------------
-- Scopes of Reached Elements
------------------------------------------------------------

/-
  Take any arena, with parent links of any kind, and any of
  its elements.  When its turn comes in the middle of
  lowering, it is lowered in one scope: the first declaration
  among the first hundred nodes of its parent chain in the
  arena as it was at the start, or none.  An arena that
  differs beyond these nodes gives the same scope.  The walk
  sees a hundred nodes of the chain and no more, even if the
  chain does not end.
-/
theorem lowering_sees_first_declaration
    (host : Host T)
    (config : Config T)
    (tree now : Tree T)
    (id : NodeId)
    (node : Node T)
    (content : ElementNode)
    (hReaches : Reaches host config tree now (id + 1))
    (hNode : tree.get? id = some node)
    (hKind : node.kind = .element content) :
    ∃ scope,
      (∀ other,
        FirstDeclared (tree.declaredAbove id) 100 other ↔
          other = scope) ∧
      now.lowerNode host config id =
        now.lowerElement host config id node.span content
          scope ∧
      (∀ other : Tree T,
        (∀ hops,
          hops < 100 →
            other.declaredAbove id hops =
              tree.declaredAbove id hops) →
          other.scopeOf id = scope) ∧
      ∀ (stage : Tree T) (hops : Nat),
        (stage.ancestors Scope.hopLimit id)[hops]? =
          if hops < 100 then stage.above id hops else none := by
  rcases hReaches.keeps_elements with ⟨hStage, hKept⟩
  have hNow : now.get? id = some node := by
    apply hKept id node (Nat.lt_succ_self id) hNode
    rw [hKind]
    rfl
  have hFirst := tree.scopeOf_firstDeclared id
  refine
    ⟨tree.scopeOf id, ?_, hStage.lowerNode_eq hNow hKind, ?_,
      fun stage => stage.ancestors_getElem? Scope.hopLimit id⟩
  · intro other
    constructor
    · intro hOther
      exact hFirst.unique hOther
    · intro hSame
      rw [hSame]
      exact hFirst
  · intro other hSame
    exact
      (hFirst.congr hSame).unique (other.scopeOf_firstDeclared id)

/-
  A fragment whose parents are each other's parents, and a
  fragment in a declaration that comes after it and has a
  parent that does not exist.
-/
def looped : Tree String :=
  let tree := Tree.ofSpan ⟨0, 40⟩
  let (_, tree) :=
    tree.addElement 2 ⟨1, 9⟩ ⟨.fragment, [], [], true⟩
  let (_, tree) := tree.addCode 1 ⟨2, 3⟩
  let (_, tree) :=
    tree.addElement 4 ⟨10, 19⟩ ⟨.fragment, [], [], true⟩
  let (_, tree) :=
    tree.addScope 9 ⟨10, 20⟩ (.ofFunction ⟨some "f", false⟩)
  tree

/- Calls get the name of their scope as an extra argument. -/
def scopedCalls : Config String :=
  ⟨"rt", "T", "T", false, true, none,
    some fun scope => [scope.name?.getD "none"]⟩

theorem lowering_sees_first_declaration_looped :
    ∃ now,
      Reaches Host.text scopedCalls looped now 2 ∧
        looped.get? 1 =
          some ⟨some 2, ⟨1, 9⟩, .element ⟨.fragment, [], [], true⟩⟩ ∧
        now.lowerNode Host.text scopedCalls 1 =
          now.lowerElement Host.text scopedCalls 1 ⟨1, 9⟩
            ⟨.fragment, [], [], true⟩ .unknown := by
  have hStart :
      Reaches Host.text scopedCalls looped looped 5 :=
    Reaches.start
  have hDeclaration := hStart.step rfl
  have hFragment := hDeclaration.step rfl
  have hCode := hFragment.step rfl
  have hNone :
      FirstDeclared (looped.declaredAbove 1) 100 .unknown := by
    unfold FirstDeclared
    decide +kernel
  refine ⟨_, hCode, rfl, ?_⟩
  rcases
      lowering_sees_first_declaration Host.text scopedCalls
        looped _ 1 _ _ hCode rfl rfl with
    ⟨scope, hScope, hLower, _⟩
  rw [(hScope .unknown).mp hNone]
  exact hLower

end Tree

end MarkupLowering
