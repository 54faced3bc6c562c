import MarkupLowering.Text.Span

/-
  This file defines what can go wrong when an element is
  lowered: the cause, its wording and code, and the place it
  is reported at.

  Key definitions include:
    * `LowerCause`
    * `LowerCause.message`
    * `LowerCause.code`
    * `LowerError`
    * `LowerError.orAt`
-/

namespace MarkupLowering

------------------------------------------------------------
-- Causes
------------------------------------------------------------

/- Why an element cannot be lowered. -/
inductive LowerCause where
  | unsupportedValue (kind : String)
  | unhandledValue (kind : String)
  | unexpectedChild (kind : String)
  | notYetLowered (tag : String)
  | unbalancedTemplate (statics dynamics : Nat)
  | noContext (tag : String)
  | malformedTag (tag reason : String)
deriving DecidableEq, Repr

namespace LowerCause

/- The cause in words. -/
def message : LowerCause → String
  | unsupportedValue kind =>
      "unsupported JSX attribute value type: " ++ kind
  | unhandledValue kind =>
      "unhandled JSX attribute value type: " ++ kind
  | unexpectedChild kind =>
      "unexpected JSX child: " ++ kind
  | notYetLowered tag =>
      "unexpected JSX element child <" ++ tag
        ++ ">: descendants must be lowered before their parent"
  | unbalancedTemplate statics dynamics =>
      "statics should have one more item than dynamics: statics.length="
        ++ toString statics ++ ", dynamics.length=" ++ toString dynamics
  | noContext tag =>
      "component <" ++ tag ++ "> is not inside a function or class"
  | malformedTag tag reason =>
      "malformed tag name '" ++ tag ++ "': " ++ reason

/- The code under which the cause is reported. -/
def code : LowerCause → String
  | unsupportedValue _ => "JSX2TTL-ERR-PROPS"
  | unhandledValue _ => "JSX2TTL-ERR-ATTR"
  | unexpectedChild _ => "JSX2TTL-ERR-CHILD"
  | notYetLowered _ => "JSX2TTL-ERR-ORDER"
  | unbalancedTemplate _ _ => "JSX2TTL-ERR-INVARIANT"
  | noContext _ => "JSX2TTL-ERR-CONTEXT"
  | malformedTag _ _ => "JSX2TTL-ERR-TAG"

end LowerCause

------------------------------------------------------------
-- Errors
------------------------------------------------------------

/- A cause and the place it is reported at, once known. -/
structure LowerError where
  cause : LowerCause
  span : Option Span
deriving DecidableEq, Repr

namespace LowerError

/- An error whose place is not yet known. -/
def unplaced (cause : LowerCause) : LowerError :=
  ⟨cause, none⟩

/- An error at a place. -/
def placed
    (cause : LowerCause)
    (span : Span) : LowerError :=
  ⟨cause, some span⟩

/- Place an error that has no place yet. -/
def orAt
    (error : LowerError)
    (span : Span) : LowerError :=
  { error with span := some (error.span.getD span) }

end LowerError

end MarkupLowering
