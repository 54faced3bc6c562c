import MarkupLowering.Emission
import MarkupLowering.Tree

/-
  This file lowers all elements of an arena.  The nodes are
  visited from the last to the first.  A node that refers
  only to later nodes thus finds their tokens in place; it
  takes them out and is replaced by its own token.

  Key definitions include:
    * `Host`
    * `Host.text`
    * `Tree.take`
    * `Tree.takeElement`
    * `Tree.lowerNode`
    * `Tree.lowerAll`
-/

namespace MarkupLowering

------------------------------------------------------------
-- Hosts
------------------------------------------------------------

/- How the tokens of code and of calls are made. -/
structure Host (T : Type) where
  splice : List T → T
  emit : Lowered T → T

/- Tokens that are source text. -/
def Host.text : Host String where
  splice := String.join
  emit := Emission.lowered

/- The token of the whole module and the number of elements. -/
structure LoweredTree (T : Type) where
  root : T
  elementsLowered : Nat
deriving DecidableEq, Repr

namespace Tree

variable {T : Type}

------------------------------------------------------------
-- Taking Tokens
------------------------------------------------------------

/- The text by which a node without a token is reported. -/
def label
    (id : NodeId) : NodeKind T → String
  | .element element => element.tag.text
  | _ => "#" ++ toString id

/-
  Take the token of a node.  A node without a token is
  reported at its own place, and a node that does not exist at
  the place that refers to it.
-/
def take
    (tree : Tree T)
    (id : NodeId)
    (referrer : Span) : Except LowerError (T × Tree T) :=
  match tree.get? id with
  | none =>
      .error
        (.placed (.notYetLowered ("#" ++ toString id)) referrer)
  | some node =>
      match node.kind with
      | .lowered token => .ok (token, tree.setKind id .consumed)
      | kind =>
          .error
            (.placed (.notYetLowered (label id kind)) node.span)

/- Take the tokens of the parts of code. -/
def takeParts
    (referrer : Span) :
    Tree T → List (CodePart T) → Except LowerError (List T × Tree T)
  | tree, [] => .ok ([], tree)
  | tree, .token token :: rest => do
      let (tokens, tree) ← takeParts referrer tree rest
      return (token :: tokens, tree)
  | tree, .node id :: rest => do
      let (token, tree) ← tree.take id referrer
      let (tokens, tree) ← takeParts referrer tree rest
      return (token :: tokens, tree)

/- Take the token of an attribute, if it refers to one. -/
def takeAttribute
    (tree : Tree T)
    (attr : AttributeNode) : Except LowerError (Attribute T × Tree T) :=
  let named (value : AttributeValue T) : Attribute T :=
    .named ⟨attr.name.getD "", value, attr.span⟩
  match attr.slot with
  | .absent => .ok (named .absent, tree)
  | .text value => .ok (named (.text value), tree)
  | .empty => .ok (named .empty, tree)
  | .other kind => .ok (named (.other kind), tree)
  | .expression id => do
      let (token, tree) ← tree.take id attr.span
      return (named (.expression token), tree)
  | .element id => do
      let (token, tree) ← tree.take id attr.span
      return (named (.element token), tree)
  | .spread id => do
      let (token, tree) ← tree.take id attr.span
      return (.spread token attr.span, tree)

/- Take the tokens of attributes in order. -/
def takeAttributes :
    Tree T → List AttributeNode →
      Except LowerError (List (Attribute T) × Tree T)
  | tree, [] => .ok ([], tree)
  | tree, attr :: rest => do
      let (attr, tree) ← tree.takeAttribute attr
      let (attributes, tree) ← takeAttributes tree rest
      return (attr :: attributes, tree)

/-
  Take the token of a child.  A child element without a token
  stays raw; whether that matters is up to its parent.
-/
def takeChild
    (referrer : Span)
    (tree : Tree T) :
    ChildNode → Except LowerError (Child T × Tree T)
  | .text value span => .ok (.text value span, tree)
  | .other kind span => .ok (.other kind span, tree)
  | .expression id span => do
      let (token, tree) ← tree.take id span
      return (.expression token span, tree)
  | .element id =>
      match tree.get? id with
      | none => .ok (.raw ("#" ++ toString id) referrer, tree)
      | some node =>
          match node.kind with
          | .lowered token =>
              .ok
                (.lowered token node.span, tree.setKind id .consumed)
          | kind => .ok (.raw (label id kind) node.span, tree)

/- Take the tokens of children in order. -/
def takeChildren
    (referrer : Span) :
    Tree T → List ChildNode → Except LowerError (List (Child T) × Tree T)
  | tree, [] => .ok ([], tree)
  | tree, child :: rest => do
      let (child, tree) ← tree.takeChild referrer child
      let (children, tree) ← takeChildren referrer tree rest
      return (child :: children, tree)

/- Take the tokens of an element, attributes before children. -/
def takeElement
    (tree : Tree T)
    (span : Span)
    (element : ElementNode) : Except LowerError (Element T × Tree T) := do
  let (attributes, tree) ← tree.takeAttributes element.attributes
  let (children, tree) ← tree.takeChildren span element.children
  return (⟨element.tag, attributes, children,
    element.hasClosingTag, span⟩, tree)

------------------------------------------------------------
-- Lowering
------------------------------------------------------------

/-
  Replace a node by its token and count it if it is an
  element.
-/
def lowerNode
    (host : Host T)
    (config : Config T)
    (tree : Tree T)
    (id : NodeId) : Except LowerError (Tree T × Nat) :=
  match tree.get? id with
  | none => .ok (tree, 0)
  | some node =>
      match node.kind with
      | .code parts => do
          let (tokens, tree) ←
            (tree.setKind id .consumed).takeParts node.span parts
          return (tree.setKind id (.lowered (host.splice tokens)), 0)
      | .element element => do
          let held := tree.setKind id .consumed
          let (resolved, tree) ← held.takeElement node.span element
          let lowered ← resolved.lower config (held.scopeOf id)
          return (tree.setKind id (.lowered (host.emit lowered)), 1)
      | _ => .ok (tree, 0)

/- Replace the nodes below a number, from the last to the first. -/
def lowerBelow
    (host : Host T)
    (config : Config T) :
    NodeId → Tree T → Nat → Except LowerError (Tree T × Nat)
  | 0, tree, count => .ok (tree, count)
  | id + 1, tree, count => do
      let (tree, more) ← tree.lowerNode host config id
      lowerBelow host config id tree (count + more)

/- Lower all elements of the arena. -/
def lowerAll
    (host : Host T)
    (config : Config T)
    (tree : Tree T) : Except LowerError (LoweredTree T) := do
  let (tree, count) ← tree.lowerBelow host config tree.size 0
  match tree.get? Tree.root with
  | some ⟨_, _, .lowered token⟩ => return ⟨token, count⟩
  | some node => throw (.placed (.notYetLowered "<root>") node.span)
  | none => throw (.placed (.notYetLowered "<root>") Span.zero)

end Tree

end MarkupLowering
