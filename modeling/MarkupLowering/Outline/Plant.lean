import MarkupLowering.Outline
import MarkupLowering.Tree

/-
  This file plants the outline of a module in an arena.

  Declarations become scopes, and elements become elements.
  The module and every embedded expression become code, cut at
  the elements that stand directly in it.

  Key definitions include:
    * `Hole`
    * `sortHoles`
    * `cutCode`
    * `Outline.plant`
-/

namespace MarkupLowering

------------------------------------------------------------
-- Cutting Code
------------------------------------------------------------

/- The place of an element in code, and its node. -/
structure Hole where
  span : Span
  node : NodeId
deriving DecidableEq, Repr

/- Put a hole in front of the first one that does not begin before it. -/
def insertHole (hole : Hole) : List Hole → List Hole
  | [] => [hole]
  | other :: others =>
      if hole.span.start ≤ other.span.start then
        hole :: other :: others
      else
        other :: insertHole hole others

/- The holes in order of their beginnings. -/
def sortHoles (holes : List Hole) : List Hole :=
  holes.foldr insertHole []

/- The parts of code from an offset on, cut at ordered holes. -/
def cutFrom
    (source : List Char)
    (stop : Nat) :
    (cursor : Nat) → List Hole → List (CodePart String)
  | cursor, [] =>
      if cursor < stop then
        [.token (String.ofList (Text.clip source cursor stop))]
      else
        []
  | cursor, hole :: holes =>
      let others := cutFrom source stop hole.span.stop holes
      let rest := .node hole.node :: others
      if cursor < hole.span.start then
        let text := Text.clip source cursor hole.span.start
        .token (String.ofList text) :: rest
      else
        rest

/- The parts of the code of a span, cut at its holes. -/
def cutCode
    (source : List Char)
    (span : Span)
    (holes : List Hole) : List (CodePart String) :=
  cutFrom source span.stop span.start (sortHoles holes)

------------------------------------------------------------
-- Planting
------------------------------------------------------------

/- The kind under which a spread child is reported. -/
def spreadChildKind : String :=
  "JSXSpreadChild"

mutual

/- Plant pieces and give the elements that stand directly in them. -/
def plantPieces
    (source : List Char)
    (parent : NodeId) :
    List (Piece Declaration) →
    Tree String → List Hole × Tree String
  | [], tree => ([], tree)
  | piece :: pieces, tree =>
      let (first, tree) := plantPiece source parent piece tree
      let (others, tree) := plantPieces source parent pieces tree
      (first ++ others, tree)

/- Plant a piece. -/
def plantPiece
    (source : List Char)
    (parent : NodeId) :
    Piece Declaration → Tree String → List Hole × Tree String
  | .group head body, tree =>
      let (id, tree) :=
        tree.addScope parent head.span head.enclosure
      plantPieces source id body tree
  | .markup element, tree =>
      let (id, tree) := plantMarkup source parent element tree
      ([⟨element.span, id⟩], tree)

/- Plant an element. -/
def plantMarkup
    (source : List Char)
    (parent : NodeId) :
    Markup Declaration → Tree String → NodeId × Tree String
  | .mk span tag attributes content, tree =>
      let (id, tree) :=
        tree.addElement parent span
          ⟨tag, [], [], content.isSome⟩
      let (attributes, tree) := plantAttributes source id attributes tree
      let (children, tree) := plantContent source id content tree
      let tree := tree.editElement id fun element =>
        { element with attributes := attributes, children := children }
      (id, tree)

/- Plant attributes. -/
def plantAttributes
    (source : List Char)
    (parent : NodeId) :
    List (MarkupAttribute Declaration) →
    Tree String → List AttributeNode × Tree String
  | [], tree => ([], tree)
  | attr :: rest, tree =>
      let (attr, tree) := plantAttribute source parent attr tree
      let (others, tree) := plantAttributes source parent rest tree
      (attr :: others, tree)

/- Plant an attribute. -/
def plantAttribute
    (source : List Char)
    (parent : NodeId) :
    MarkupAttribute Declaration →
    Tree String → AttributeNode × Tree String
  | .absent name span, tree => (⟨some name, .absent, span⟩, tree)
  | .text name value span, tree =>
      (⟨some name, .text value, span⟩, tree)
  | .empty name span, tree => (⟨some name, .empty, span⟩, tree)
  | .code name value span, tree =>
      let (id, tree) := plantCode source parent value tree
      (⟨some name, .expression id, span⟩, tree)
  | .markup name value span, tree =>
      let (id, tree) := plantMarkup source parent value tree
      (⟨some name, .element id, span⟩, tree)
  | .spread argument span, tree =>
      let (id, tree) := plantCode source parent argument tree
      (⟨none, .spread id, span⟩, tree)

/- Plant what stands between the tags of an element, if it has two. -/
def plantContent
    (source : List Char)
    (parent : NodeId) :
    Option (List (MarkupChild Declaration)) →
    Tree String → List ChildNode × Tree String
  | none, tree => ([], tree)
  | some children, tree => plantChildren source parent children tree

/-
  Plant children.  An empty container leaves no child.
-/
def plantChildren
    (source : List Char)
    (parent : NodeId) :
    List (MarkupChild Declaration) →
    Tree String → List ChildNode × Tree String
  | [], tree => ([], tree)
  | child :: rest, tree =>
      let (first, tree) := plantChild source parent child tree
      let (others, tree) := plantChildren source parent rest tree
      (first.toList ++ others, tree)

/- Plant a child. -/
def plantChild
    (source : List Char)
    (parent : NodeId) :
    MarkupChild Declaration →
    Tree String → Option ChildNode × Tree String
  | .text value span, tree => (some (.text value span), tree)
  | .code value span, tree =>
      let (id, tree) := plantCode source parent value tree
      (some (.expression id span), tree)
  | .empty _, tree => (none, tree)
  | .markup element, tree =>
      let (id, tree) := plantMarkup source parent element tree
      (some (.element id), tree)
  | .spread span, tree =>
      (some (.other spreadChildKind span), tree)

/- Plant an embedded expression. -/
def plantCode
    (source : List Char)
    (parent : NodeId) :
    Code Declaration → Tree String → NodeId × Tree String
  | .mk span pieces, tree =>
      let (id, tree) := tree.addCode parent span
      let (holes, tree) := plantPieces source id pieces tree
      (id, tree.setCode id (cutCode source span holes))

end

namespace Outline

/- The arena of a module. -/
def plant
    (source : String)
    (outline : Outline) : Tree String :=
  let chars := source.toList
  let span := Span.between 0 (Text.byteLength chars)
  let (holes, tree) :=
    plantPieces chars Tree.root outline.pieces
      (Tree.ofSpan span)
  tree.setCode Tree.root (cutCode chars span holes)

end Outline

end MarkupLowering
