import MarkupLowering.Text.Span

/-
  This file defines the children of elements.

  Key definitions include:
    * `Child`
    * `Child.span`
-/

namespace MarkupLowering

/-
  A child of an element.  A child element is `lowered` when
  its token is known and `raw` when it is not.
-/
inductive Child (T : Type) where
  | text (value : String) (span : Span)
  | expression (token : T) (span : Span)
  | lowered (token : T) (span : Span)
  | raw (tag : String) (span : Span)
  | other (kind : String) (span : Span)
deriving DecidableEq, Repr, Inhabited

namespace Child

variable {T : Type}

/- The place of a child. -/
def span : Child T → Span
  | text _ span => span
  | expression _ span => span
  | lowered _ span => span
  | raw _ span => span
  | other _ span => span

end Child

end MarkupLowering
