import MarkupLowering.Attribute
import MarkupLowering.Builtin
import MarkupLowering.Kebab
import MarkupLowering.Options
import MarkupLowering.Script.Module

/-
  This file defines what the built-in attribute transforms do.
  They look at the attributes of plain elements, before these
  become part of a tag.

  Key definitions include:
    * `Style.text?`
    * `Builtin.apply`
    * `Config.install`
    * `Config.resolve`
-/

namespace MarkupLowering

------------------------------------------------------------
-- Style Objects
------------------------------------------------------------

namespace Style

/- A declaration of a style sheet. -/
def declaration (property : String × String) : String :=
  kebabCase property.1 ++ ": " ++ property.2 ++ ";"

/- Declarations of a style sheet in one line. -/
def declarations (properties : List (String × String)) : String :=
  String.intercalate " " (properties.map declaration)

/-
  The declarations that an object literal stands for.  There
  are none if the code is anything else or if a value is not
  plain.
-/
def text? (code : String) : Option String :=
  match Script.readExpression code with
  | .ok ⟨_, .object (some properties) _⟩ => some (declarations properties)
  | _ => none

end Style

------------------------------------------------------------
-- Transforms
------------------------------------------------------------

namespace NamedAttribute

/- The attribute `className` as the attribute `class`. -/
def classNameToClass
    {T : Type}
    (attr : NamedAttribute T) : NamedAttribute T :=
  if attr.name = "className" then
    { attr with name := "class" }
  else
    attr

/- The attribute `style` with an object literal as text. -/
def styleObjectToCss
    (attr : NamedAttribute String) : NamedAttribute String :=
  if attr.name = "style" then
    match attr.value with
    | .expression code =>
        match Style.text? code with
        | some css => { attr with value := .text css }
        | none => attr
    | _ => attr
  else
    attr

end NamedAttribute

namespace Builtin

/- Apply a built-in transform to an attribute. -/
def apply : Builtin → NamedAttribute String → NamedAttribute String
  | classNameToClass, attr => attr.classNameToClass
  | styleObjectToCss, attr => attr.styleObjectToCss

end Builtin

------------------------------------------------------------
-- Configurations
------------------------------------------------------------

namespace Config

/- Add built-in transforms, each to be applied after the earlier ones. -/
def install
    (config : Config String)
    (builtins : List Builtin) : Config String :=
  builtins.foldl
    (fun config builtin =>
      config.withAttributeTransform builtin.apply)
    config

/-
  The configuration of options, with the built-in transforms
  they name.
-/
def resolve (options : Options) : Except ConfigError (Config String) := do
  let config ← Config.ofOptions options
  return config.install options.attributeTransforms

end Config

end MarkupLowering
