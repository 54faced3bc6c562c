/-
  This file defines the declarations that can enclose an
  element and finds the one that does.

  An element belongs to the nearest enclosing declaration.
  The search looks at a bounded number of enclosing nodes, so
  it ends on any chain.

  Key definitions include:
    * `FunctionScope`
    * `ClassScope`
    * `Enclosure`
    * `Scope`
    * `Scope.hopLimit`
    * `Scope.resolve`
-/

namespace MarkupLowering

------------------------------------------------------------
-- Declarations
------------------------------------------------------------

/- A function or an arrow function. -/
structure FunctionScope where
  name : Option String
  isArrow : Bool
deriving DecidableEq, Repr, Inhabited

/- A class with the names of what it extends and implements. -/
structure ClassScope where
  name : Option String
  superclassNames : List String
  interfaceNames : List String
deriving DecidableEq, Repr, Inhabited

/- A declaration that can enclose an element. -/
inductive Enclosure where
  | ofFunction (scope : FunctionScope)
  | ofClass (scope : ClassScope)
deriving DecidableEq, Repr, Inhabited

namespace Enclosure

/- The name of the declaration. -/
def name? : Enclosure → Option String
  | ofFunction scope => scope.name
  | ofClass scope => scope.name

end Enclosure

------------------------------------------------------------
-- Scopes
------------------------------------------------------------

/- The declaration that encloses an element, if one is known. -/
inductive Scope where
  | within (enclosure : Enclosure)
  | unknown
deriving DecidableEq, Repr, Inhabited

namespace Scope

/- The name of the enclosing declaration. -/
def name? : Scope → Option String
  | within enclosure => enclosure.name?
  | unknown => none

/- The scope is a function. -/
def isFunction : Scope → Bool
  | within (.ofFunction _) => true
  | _ => false

/- The scope is a class. -/
def isClass : Scope → Bool
  | within (.ofClass _) => true
  | _ => false

/- The number of enclosing nodes that are looked at. -/
def hopLimit : Nat :=
  100

/-
  The nearest declaration of a chain of enclosing nodes,
  innermost first, in which only declarations carry a value.
-/
def resolve (chain : List (Option Enclosure)) : Scope :=
  match (chain.take hopLimit).findSome? id with
  | some enclosure => within enclosure
  | none => unknown

end Scope

end MarkupLowering
