import MarkupLowering.Attribute
import MarkupLowering.Scope

/-
  This file defines the configuration of a lowering pass: what
  is imported, how it is called, and two hooks that look at
  attributes and scopes.

  Key definitions include:
    * `Config`
    * `Config.withImportAs`
    * `Config.withDefaultImport`
    * `Config.withConstructorCall`
    * `Config.withAttributeTransform`
    * `Config.withExtraArgs`
    * `Config.transformAttribute`
    * `Config.extraArgs`
-/

namespace MarkupLowering

/- The configuration of a lowering pass. -/
structure Config (T : Type) where
  importPath : String
  importName : String
  importAs : String
  isDefaultImport : Bool
  useConstructorCall : Bool
  attributeHook : Option (NamedAttribute T → NamedAttribute T)
  extraArgsHook : Option (Scope → List T)

namespace Config

variable {T : Type}

------------------------------------------------------------
-- Building
------------------------------------------------------------

/- Bind the import to another name. -/
def withImportAs
    (config : Config T)
    (name : String) : Config T :=
  { config with importAs := name }

/- Choose between a default and a named import. -/
def withDefaultImport
    (config : Config T)
    (isDefault : Bool) : Config T :=
  { config with isDefaultImport := isDefault }

/- Choose between a construction and a plain call. -/
def withConstructorCall
    (config : Config T)
    (construct : Bool) : Config T :=
  { config with useConstructorCall := construct }

/- Add an attribute transform, to be applied after the others. -/
def withAttributeTransform
    (config : Config T)
    (transform : NamedAttribute T → NamedAttribute T) : Config T :=
  { config with
    attributeHook :=
      match config.attributeHook with
      | some earlier => some fun attr => transform (earlier attr)
      | none => some transform }

/- Choose the extra arguments of template calls. -/
def withExtraArgs
    (config : Config T)
    (extraArgs : Scope → List T) : Config T :=
  { config with extraArgsHook := some extraArgs }

------------------------------------------------------------
-- Hooks
------------------------------------------------------------

/- An attribute after all attribute transforms. -/
def transformAttribute
    (config : Config T)
    (attr : NamedAttribute T) : NamedAttribute T :=
  match config.attributeHook with
  | some transform => transform attr
  | none => attr

/- The extra arguments of a template call in a scope. -/
def extraArgs
    (config : Config T)
    (scope : Scope) : List T :=
  match config.extraArgsHook with
  | some extraArgs => extraArgs scope
  | none => []

end Config

end MarkupLowering
