import MarkupLowering.Scope
import MarkupLowering.Tag
import MarkupLowering.Text.Span

/-
  This file defines the outline of a module: its declarations
  and elements with the code embedded in them, in the order of
  the source text.  All other code is known by its place only.

  Pieces are defined for any kind of heads, since a module is
  read with more of them than its outline needs.

  Key definitions include:
    * `Piece`
    * `Markup`
    * `MarkupAttribute`
    * `MarkupChild`
    * `Code`
    * `Declaration`
    * `Outline`
-/

namespace MarkupLowering

------------------------------------------------------------
-- Pieces
------------------------------------------------------------

mutual

/- A head with what it holds, or an element. -/
inductive Piece (H : Type) where
  | group (head : H) (body : List (Piece H))
  | markup (element : Markup H)

/-
  An element or a fragment.  Its content is what stands
  between its two tags; an element of one tag has none.
-/
inductive Markup (H : Type) where
  | mk
      (span : Span)
      (tag : TagName)
      (attributes : List (MarkupAttribute H))
      (content : Option (List (MarkupChild H)))

/-
  An attribute of an element.  Braces with nothing in them are
  no value of the grammar, so the reader makes no attribute
  that is `empty`.
-/
inductive MarkupAttribute (H : Type) where
  | absent (name : String) (span : Span)
  | text (name value : String) (span : Span)
  | empty (name : String) (span : Span)
  | code (name : String) (value : Code H) (span : Span)
  | markup (name : String) (value : Markup H) (span : Span)
  | spread (argument : Code H) (span : Span)

/-
  A child of an element.  Nothing is known of what a spread
  child holds.
-/
inductive MarkupChild (H : Type) where
  | text (value : String) (span : Span)
  | code (value : Code H) (span : Span)
  | empty (span : Span)
  | markup (element : Markup H)
  | spread (span : Span)

/- An embedded expression and the pieces in it. -/
inductive Code (H : Type) where
  | mk (span : Span) (pieces : List (Piece H))

end

namespace Markup

variable {H : Type}

/- The place of an element. -/
def span : Markup H → Span
  | mk span _ _ _ => span

/- The tag of an element. -/
def tag : Markup H → TagName
  | mk _ tag _ _ => tag

end Markup

------------------------------------------------------------
-- Modules
------------------------------------------------------------

/- A function, an arrow function or a class, as a scope. -/
structure Declaration where
  span : Span
  enclosure : Enclosure
deriving DecidableEq, Repr

/- A module. -/
structure Outline where
  hashbang : Option Span
  directives : List Span
  pieces : List (Piece Declaration)

namespace Outline

/-
  The offset at which the prologue of a module ends: past its
  last directive or its first line, if that is a hashbang.
-/
def prologueEnd (outline : Outline) : Nat :=
  (outline.hashbang.toList ++ outline.directives).foldl
    (fun offset span => max offset span.stop) 0

end Outline

end MarkupLowering
