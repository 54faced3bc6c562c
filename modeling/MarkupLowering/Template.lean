import MarkupLowering.Child
import MarkupLowering.Config

/-
  This file defines templates: static texts with a dynamic
  token between each two of them, and the accumulator that
  attributes and children are written to.

  A step that fails keeps what it wrote before it failed.

  Key definitions include:
    * `TemplateForm`
    * `TemplateParts`
    * `TemplateParts.appendStatic`
    * `TemplateParts.pushStatic`
    * `TemplateParts.pushDynamic`
    * `TemplateParts.text`
    * `TemplateParts.addAttribute`
    * `TemplateParts.addChildren`
    * `TemplateParts.finish`
-/

namespace MarkupLowering

------------------------------------------------------------
-- Templates
------------------------------------------------------------

/- A finished template with the extra arguments of its call. -/
structure TemplateForm (T : Type) where
  statics : List String
  dynamics : List T
  extraArgs : List T
deriving DecidableEq, Repr, Inhabited

/- A template in the making. -/
structure TemplateParts (T : Type) where
  statics : List String
  dynamics : List T
  endsDynamic : Bool
deriving DecidableEq, Repr, Inhabited

namespace TemplateParts

variable {T : Type}

------------------------------------------------------------
-- Single Steps
------------------------------------------------------------

/- A template that begins with a static text. -/
def seeded (first : String) : TemplateParts T :=
  ⟨[first], [], false⟩

/- Extend the last of the static texts. -/
def extendLast (more : String) : List String → List String
  | [] => [more]
  | [last] => [last ++ more]
  | first :: rest => first :: extendLast more rest

/- Extend the last static text. -/
def appendStatic
    (parts : TemplateParts T)
    (text : String) : TemplateParts T :=
  { parts with statics := extendLast text parts.statics }

/- Begin a new static text. -/
def pushStatic
    (parts : TemplateParts T)
    (text : String) : TemplateParts T :=
  { parts with
    statics := parts.statics ++ [text]
    endsDynamic := false }

/- Add a dynamic token, after an empty static if one is due. -/
def pushDynamic
    (parts : TemplateParts T)
    (token : T) : TemplateParts T where
  statics :=
    if parts.endsDynamic then
      parts.statics ++ [""]
    else
      parts.statics
  dynamics := parts.dynamics ++ [token]
  endsDynamic := true

/- Add text after whatever came last. -/
def text
    (parts : TemplateParts T)
    (value : String) : TemplateParts T :=
  if parts.endsDynamic then
    parts.pushStatic value
  else
    parts.appendStatic value

/- Forget that a dynamic token came last. -/
def resetLast (parts : TemplateParts T) : TemplateParts T :=
  { parts with endsDynamic := false }

------------------------------------------------------------
-- Attributes and Children
------------------------------------------------------------

/- The text of an attribute value between double quotes. -/
def escapeValue (value : String) : String :=
  String.ofList
    (value.toList.flatMap fun c =>
      if c = '"' then "&quot;".toList else [c])

/- Add an attribute to an opening tag. -/
def addAttribute
    (config : Config T)
    (parts : TemplateParts T) :
    Attribute T → TemplateParts T × Option LowerError
  | .named attr =>
      let attr := config.transformAttribute attr
      let dynamic (token : T) :=
        ((parts.appendStatic (" " ++ attr.name ++ "=\"")).pushDynamic
          token).pushStatic "\""
      match attr.value with
      | .absent => (parts, none)
      | .empty => (parts, none)
      | .text value =>
          (parts.appendStatic
            (" " ++ attr.name ++ "=\"" ++ escapeValue value ++ "\""),
            none)
      | .expression token => (dynamic token, none)
      | .element token => (dynamic token, none)
      | .other kind =>
          (parts, some (.placed (.unhandledValue kind) attr.span))
  | .spread argument _ =>
      (((parts.appendStatic " ").pushDynamic argument).pushStatic "",
        none)

/- Add attributes until one fails. -/
def addAttributes
    (config : Config T) :
    TemplateParts T → List (Attribute T) →
      TemplateParts T × Option LowerError
  | parts, [] => (parts, none)
  | parts, attr :: rest =>
      match parts.addAttribute config attr with
      | (parts, some error) => (parts, some error)
      | (parts, none) => addAttributes config parts rest

/- Add a child. -/
def addChild
    (parts : TemplateParts T) :
    Child T → TemplateParts T × Option LowerError
  | .text value _ => (parts.text value, none)
  | .expression token _ => (parts.pushDynamic token, none)
  | .lowered token _ => (parts.pushDynamic token, none)
  | .raw tag span => (parts, some (.placed (.notYetLowered tag) span))
  | .other kind span =>
      (parts, some (.placed (.unexpectedChild kind) span))

/- Add children until one fails. -/
def addChildren :
    TemplateParts T → List (Child T) → TemplateParts T × Option LowerError
  | parts, [] => (parts, none)
  | parts, child :: rest =>
      match parts.addChild child with
      | (parts, some error) => (parts, some error)
      | (parts, none) => addChildren parts rest

------------------------------------------------------------
-- Finishing
------------------------------------------------------------

/-
  The finished template.  It has one static text more than it
  has dynamic tokens.
-/
def finish
    (parts : TemplateParts T) :
    Except LowerError (TemplateForm T) :=
  if parts.statics.length = parts.dynamics.length + 1 then
    .ok ⟨parts.statics, parts.dynamics, []⟩
  else
    .error (.unplaced
      (.unbalancedTemplate parts.statics.length parts.dynamics.length))

end TemplateParts

end MarkupLowering
