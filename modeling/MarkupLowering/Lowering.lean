import MarkupLowering.Tag
import MarkupLowering.Template

/-
  This file lowers one element whose descendants are already
  lowered.  An element that refers to a component becomes a
  call of that component with its properties; every other
  element becomes a call that carries a template.

  Key definitions include:
    * `Element`
    * `ComponentCall`
    * `TemplateCall`
    * `Lowered`
    * `Element.lower`
-/

namespace MarkupLowering

------------------------------------------------------------
-- Elements and Calls
------------------------------------------------------------

/- An element whose code is carried as tokens. -/
structure Element (T : Type) where
  tag : TagName
  attributes : List (Attribute T)
  children : List (Child T)
  hasClosingTag : Bool
  span : Span
deriving DecidableEq, Repr, Inhabited

/-
  How a component is used: a function calls it, a class
  constructs it and renders the instance.
-/
inductive ComponentStyle where
  | invoke
  | constructAndRender
deriving DecidableEq, Repr, Inhabited

/- The use of a component. -/
structure ComponentCall (T : Type) where
  tag : String
  props : List (Property T)
  style : ComponentStyle
deriving DecidableEq, Repr, Inhabited

/- A call that carries a template. -/
structure TemplateCall (T : Type) where
  callee : String
  construct : Bool
  form : TemplateForm T
deriving DecidableEq, Repr, Inhabited

/- What an element becomes. -/
inductive Lowered (T : Type) where
  | component (call : ComponentCall T)
  | template (call : TemplateCall T)
deriving DecidableEq, Repr, Inhabited

namespace Element

variable {T : Type}

------------------------------------------------------------
-- Components
------------------------------------------------------------

/- How a component is used in a scope. -/
def styleIn : Scope → Option ComponentStyle
  | .within (.ofFunction _) => some .invoke
  | .within (.ofClass _) => some .constructAndRender
  | .unknown => none

/- The use of a component.  Its children are not rendered. -/
def lowerComponent
    (element : Element T)
    (scope : Scope) : Except LowerError (ComponentCall T) :=
  match properties element.attributes with
  | .error error => .error error
  | .ok props =>
      match styleIn scope with
      | some style => .ok ⟨element.tag.text, props, style⟩
      | none => .error (.unplaced (.noContext element.tag.text))

------------------------------------------------------------
-- Templates
------------------------------------------------------------

/- The opening tag. -/
def openingTag
    (config : Config T)
    (element : Element T) : TemplateParts T × Option LowerError :=
  if element.tag = .fragment then
    (.seeded "", none)
  else
    match
      (TemplateParts.seeded ("<" ++ element.tag.text)).addAttributes
        config element.attributes
    with
    | (parts, some error) => (parts, some error)
    | (parts, none) =>
        if element.children.isEmpty && !element.hasClosingTag then
          (parts.appendStatic " />", none)
        else
          (parts.appendStatic ">", none)

/-
  The closing tag.  A fragment ends with the static text that
  a last dynamic token calls for.
-/
def closingTag
    (element : Element T)
    (parts : TemplateParts T) : TemplateParts T :=
  if element.tag = .fragment then
    parts.text ""
  else if element.hasClosingTag then
    parts.text ("</" ++ element.tag.text ++ ">")
  else
    parts

/- The template of an element. -/
def templateForm
    (config : Config T)
    (element : Element T) : Except LowerError (TemplateForm T) :=
  match element.openingTag config with
  | (_, some error) => .error error
  | (opened, none) =>
      match opened.resetLast.addChildren element.children with
      | (_, some error) => .error error
      | (filled, none) => (element.closingTag filled).finish

/- The call that carries the template of an element. -/
def lowerTemplate
    (config : Config T)
    (element : Element T)
    (scope : Scope) : Except LowerError (TemplateCall T) :=
  match element.templateForm config with
  | .error error => .error error
  | .ok form =>
      .ok
        { callee := config.importAs
          construct := config.useConstructorCall
          form := { form with extraArgs := config.extraArgs scope } }

------------------------------------------------------------
-- Elements
------------------------------------------------------------

/- Lower an element, leaving errors about all of it unplaced. -/
def lowerUnplaced
    (config : Config T)
    (element : Element T)
    (scope : Scope) : Except LowerError (Lowered T) :=
  match element.tag.flaw? with
  | some flaw =>
      .error (.unplaced (.malformedTag element.tag.text flaw.message))
  | none =>
      if element.tag.isComponent then
        (element.lowerComponent scope).map .component
      else
        (element.lowerTemplate config scope).map .template

/- Lower an element in a scope. -/
def lower
    (config : Config T)
    (element : Element T)
    (scope : Scope) : Except LowerError (Lowered T) :=
  match element.lowerUnplaced config scope with
  | .ok lowered => .ok lowered
  | .error error => .error (error.orAt element.span)

end Element

end MarkupLowering
