import MarkupLowering.Outline

/-
  This file defines what is read of a module, before names are
  given to its declarations: functions, arrow functions and
  classes, together with the variables, methods and properties
  that stand around them.

  Key definitions include:
    * `Superclass`
    * `Construct`
    * `headsIn`
    * `startsOf`
    * `Program`
-/

namespace MarkupLowering

------------------------------------------------------------
-- Constructs
------------------------------------------------------------

/-
  What a class extends.  An array is known by those of its
  elements that are names.
-/
inductive Superclass where
  | name (text : String)
  | array (elements : List (Option String))
  | member (span : Span)
  | other
deriving DecidableEq, Repr

/- How a property of an object gets its value. -/
inductive PropertyKind where
  | plain
  | getter
  | setter
deriving DecidableEq, Repr

/-
  What can stand around a piece.

  A variable, a method and a property stand around their value
  alone.  A value that is a declaration is the one piece
  there.  Any other value is an expression, with all pieces in
  it.
-/
inductive Construct where
  | arrow (span : Span)
  | function (span : Span) (name : Option String)
  | ofClass
      (span : Span)
      (name : Option String)
      (superclass : Option Superclass)
      (interfaces : List Span)
  | binding (target : Option String)
  | method
  | property (isMethod : Bool) (kind : PropertyKind)
  | expression
deriving DecidableEq, Repr

/- The offset at which a declaration begins. -/
def Construct.start? : Construct → Option Nat
  | arrow span => some span.start
  | function span _ => some span.start
  | ofClass span _ _ _ => some span.start
  | _ => none

------------------------------------------------------------
-- Heads
------------------------------------------------------------

section Heads

variable {H : Type}

mutual

/- All heads in pieces, in order. -/
def headsIn : List (Piece H) → List H
  | [] => []
  | piece :: pieces => piece.heads ++ headsIn pieces

def Piece.heads : Piece H → List H
  | .group head body => head :: headsIn body
  | .markup element => element.heads

def Markup.heads : Markup H → List H
  | .mk _ _ attributes content =>
      attributesHeads attributes ++ contentHeads content

def attributesHeads : List (MarkupAttribute H) → List H
  | [] => []
  | attr :: rest => attr.heads ++ attributesHeads rest

def MarkupAttribute.heads : MarkupAttribute H → List H
  | .absent _ _ => []
  | .text _ _ _ => []
  | .empty _ _ => []
  | .code _ value _ => value.heads
  | .markup _ value _ => value.heads
  | .spread argument _ => argument.heads

def contentHeads : Option (List (MarkupChild H)) → List H
  | none => []
  | some children => childrenHeads children

def childrenHeads : List (MarkupChild H) → List H
  | [] => []
  | child :: rest => child.heads ++ childrenHeads rest

def MarkupChild.heads : MarkupChild H → List H
  | .text _ _ => []
  | .code value _ => value.heads
  | .empty _ => []
  | .markup element => element.heads
  | .spread _ => []

def Code.heads : Code H → List H
  | .mk _ pieces => headsIn pieces

end

end Heads

/- The offsets at which declarations begin. -/
def startsOf (heads : List Construct) : List Nat :=
  heads.filterMap Construct.start?

------------------------------------------------------------
-- Modules
------------------------------------------------------------

/-
  A module as it is read.  No two of its declarations begin at
  the same offset.
-/
structure Program where
  hashbang : Option Span
  directives : List Span
  pieces : List (Piece Construct)
  apart : (startsOf (headsIn pieces)).Nodup

end MarkupLowering
