import MarkupLowering.Fault

/-
  This file defines the attributes of elements and the
  properties that a component receives for them.  Code is
  carried as tokens of an arbitrary type and never inspected.

  Key definitions include:
    * `AttributeValue`
    * `NamedAttribute`
    * `Attribute`
    * `PropertyValue`
    * `Property`
    * `Attribute.toProperty`
    * `properties`
-/

namespace MarkupLowering

------------------------------------------------------------
-- Attributes
------------------------------------------------------------

/- The value of an attribute. -/
inductive AttributeValue (T : Type) where
  | absent
  | text (value : String)
  | expression (token : T)
  | empty
  | element (token : T)
  | other (kind : String)
deriving DecidableEq, Repr, Inhabited

/- An attribute with a name. -/
structure NamedAttribute (T : Type) where
  name : String
  value : AttributeValue T
  span : Span
deriving DecidableEq, Repr, Inhabited

/- An attribute of an element. -/
inductive Attribute (T : Type) where
  | named (attr : NamedAttribute T)
  | spread (argument : T) (span : Span)
deriving DecidableEq, Repr, Inhabited

namespace Attribute

variable {T : Type}

/- The place of an attribute. -/
def span : Attribute T → Span
  | named attr => attr.span
  | spread _ span => span

end Attribute

------------------------------------------------------------
-- Properties
------------------------------------------------------------

/- The value of a property of a component. -/
inductive PropertyValue (T : Type) where
  | text (value : String)
  | null
  | expression (token : T)
deriving DecidableEq, Repr, Inhabited

/- A property of a component. -/
inductive Property (T : Type) where
  | entry (key : String) (value : PropertyValue T)
  | spread (argument : T)
deriving DecidableEq, Repr, Inhabited

variable {T : Type}

/- The property that a component receives for an attribute. -/
def Attribute.toProperty : Attribute T → Except LowerError (Property T)
  | .named attr =>
      match attr.value with
      | .absent => .ok (.entry attr.name .null)
      | .empty => .ok (.entry attr.name .null)
      | .text value => .ok (.entry attr.name (.text value))
      | .expression token => .ok (.entry attr.name (.expression token))
      | .element token => .ok (.entry attr.name (.expression token))
      | .other kind => .error (.placed (.unsupportedValue kind) attr.span)
  | .spread argument _ => .ok (.spread argument)

/-
  The properties that a component receives for its
  attributes, in order.
-/
def properties :
    List (Attribute T) → Except LowerError (List (Property T))
  | [] => .ok []
  | attr :: rest =>
      match attr.toProperty with
      | .error error => .error error
      | .ok property =>
          match properties rest with
          | .error error => .error error
          | .ok others => .ok (property :: others)

end MarkupLowering
