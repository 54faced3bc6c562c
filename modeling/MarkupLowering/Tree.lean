import MarkupLowering.Lowering

/-
  This file defines the arena in which a module is lowered: a
  sequence of nodes, addressed by their number in order of
  creation.

  Two kinds of links join the nodes.  Parent links lead to
  the enclosing declarations and decide the scope of an
  element.  The parts of code, the values of attributes and
  the children of elements refer to the nodes whose tokens go
  there.  The first node is the code of the whole module.

  Key definitions include:
    * `CodePart`
    * `ElementNode`
    * `NodeKind`
    * `Node`
    * `Tree`
    * `Tree.addCode`
    * `Tree.addScope`
    * `Tree.addElement`
    * `Tree.setCode`
    * `Tree.editElement`
    * `Tree.ancestors`
    * `Tree.scopeOf`
-/

namespace MarkupLowering

------------------------------------------------------------
-- Nodes
------------------------------------------------------------

/- The number of a node. -/
abbrev NodeId :=
  Nat

/- A part of a piece of code. -/
inductive CodePart (T : Type) where
  | token (token : T)
  | node (id : NodeId)
deriving DecidableEq, Repr, Inhabited

/- The value of an attribute, as it stands in the arena. -/
inductive AttributeSlot where
  | absent
  | text (value : String)
  | expression (id : NodeId)
  | empty
  | spread (id : NodeId)
  | element (id : NodeId)
  | other (kind : String)
deriving DecidableEq, Repr, Inhabited

/- An attribute, as it stands in the arena. -/
structure AttributeNode where
  name : Option String
  slot : AttributeSlot
  span : Span
deriving DecidableEq, Repr, Inhabited

/- A child, as it stands in the arena. -/
inductive ChildNode where
  | text (value : String) (span : Span)
  | expression (id : NodeId) (span : Span)
  | element (id : NodeId)
  | other (kind : String) (span : Span)
deriving DecidableEq, Repr, Inhabited

/- An element, as it stands in the arena. -/
structure ElementNode where
  tag : TagName
  attributes : List AttributeNode
  children : List ChildNode
  hasClosingTag : Bool
deriving DecidableEq, Repr, Inhabited

/-
  What a node holds.  Lowering replaces code and elements by
  their tokens, and a token is consumed where it is used.
-/
inductive NodeKind (T : Type) where
  | code (parts : List (CodePart T))
  | scope (enclosure : Enclosure)
  | element (element : ElementNode)
  | lowered (token : T)
  | consumed
deriving DecidableEq, Repr, Inhabited

/- A node of the arena. -/
structure Node (T : Type) where
  parent : Option NodeId
  span : Span
  kind : NodeKind T
deriving DecidableEq, Repr, Inhabited

namespace Node

variable {T : Type}

/- The declaration that a node stands for. -/
def enclosure? (node : Node T) : Option Enclosure :=
  match node.kind with
  | .scope enclosure => some enclosure
  | _ => none

end Node

------------------------------------------------------------
-- The Arena
------------------------------------------------------------

/- The nodes in order of creation. -/
structure Tree (T : Type) where
  nodes : Array (Node T)
deriving Repr, Inhabited

namespace Tree

variable {T : Type}

/- The number of the code of the whole module. -/
def root : NodeId :=
  0

/- An arena that holds only the code of the whole module. -/
def ofSpan (span : Span) : Tree T :=
  ⟨#[⟨none, span, .code []⟩]⟩

/- The node of a number. -/
def get?
    (tree : Tree T)
    (id : NodeId) : Option (Node T) :=
  tree.nodes[id]?

/- The number of nodes. -/
def size (tree : Tree T) : Nat :=
  tree.nodes.size

/- Replace what a node holds. -/
def setKind
    (tree : Tree T)
    (id : NodeId)
    (kind : NodeKind T) : Tree T :=
  ⟨tree.nodes.modify id fun node => { node with kind := kind }⟩

------------------------------------------------------------
-- Building
------------------------------------------------------------

/- Add a node below another one and give its number. -/
def push
    (tree : Tree T)
    (parent : NodeId)
    (span : Span)
    (kind : NodeKind T) : NodeId × Tree T :=
  (tree.size, ⟨tree.nodes.push ⟨some parent, span, kind⟩⟩)

/- Add code, without parts as yet. -/
def addCode
    (tree : Tree T)
    (parent : NodeId)
    (span : Span) : NodeId × Tree T :=
  tree.push parent span (.code [])

/- Add a declaration. -/
def addScope
    (tree : Tree T)
    (parent : NodeId)
    (span : Span)
    (enclosure : Enclosure) : NodeId × Tree T :=
  tree.push parent span (.scope enclosure)

/- Add an element. -/
def addElement
    (tree : Tree T)
    (parent : NodeId)
    (span : Span)
    (element : ElementNode) : NodeId × Tree T :=
  tree.push parent span (.element element)

/- Make a node code of the given parts. -/
def setCode
    (tree : Tree T)
    (id : NodeId)
    (parts : List (CodePart T)) : Tree T :=
  tree.setKind id (.code parts)

/- Change an element.  Other nodes stay as they are. -/
def editElement
    (tree : Tree T)
    (id : NodeId)
    (edit : ElementNode → ElementNode) : Tree T :=
  match tree.get? id with
  | some ⟨_, _, .element element⟩ =>
      tree.setKind id (.element (edit element))
  | _ => tree

------------------------------------------------------------
-- Scopes
------------------------------------------------------------

/- At most `limit` nodes along the parent links, from `next?` on. -/
def chainFrom
    (tree : Tree T) :
    (limit : Nat) → (next? : Option NodeId) → List (Node T)
  | 0, _ => []
  | _ + 1, none => []
  | limit + 1, some id =>
      match tree.get? id with
      | none => []
      | some node => node :: chainFrom tree limit node.parent

/- The nearest `limit` nodes above a node, innermost first. -/
def ancestors
    (tree : Tree T)
    (limit : Nat)
    (id : NodeId) : List (Node T) :=
  tree.chainFrom limit ((tree.get? id).bind Node.parent)

/- The scope of a node. -/
def scopeOf
    (tree : Tree T)
    (id : NodeId) : Scope :=
  Scope.resolve ((tree.ancestors Scope.hopLimit id).map Node.enclosure?)

end Tree

end MarkupLowering
