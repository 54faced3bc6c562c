import MarkupLowering.Builtin
import MarkupLowering.Config
import MarkupLowering.Text.Blank
import MarkupLowering.Text.Shown

/-
  This file defines the options that can be given as data and
  the configuration they stand for.

  Key definitions include:
    * `Options`
    * `ConfigError`
    * `ConfigError.message`
    * `Config.ofOptions`
    * `Config.describe`
-/

namespace MarkupLowering

------------------------------------------------------------
-- Options
------------------------------------------------------------

/- Options of a lowering pass. -/
structure Options where
  importPath : String
  importName : String
  importAs : Option String := none
  isDefaultImport : Bool := false
  useConstructorCall : Bool := true
  attributeTransforms : List Builtin := []
deriving DecidableEq, Repr, Inhabited

/- Why options are refused. -/
inductive ConfigError where
  | missingOption (name : String)
  | invalidJson (detail : String)
deriving DecidableEq, Repr

namespace ConfigError

/- The error in words. -/
def message : ConfigError → String
  | missingOption name =>
      "option '" ++ name ++ "' is required and must not be empty"
  | invalidJson detail => "invalid options JSON: " ++ detail

end ConfigError

------------------------------------------------------------
-- Configurations
------------------------------------------------------------

/- The text is blank. -/
def isBlankText (text : String) : Bool :=
  (Text.trim text).isEmpty

namespace Config

variable {T : Type}

/-
  The configuration of options, without hooks.  The path and
  the name must not be blank, and a blank alias stands for
  none.
-/
def ofOptions (options : Options) : Except ConfigError (Config T) :=
  if isBlankText options.importPath then
    .error (.missingOption "importPath")
  else if isBlankText options.importName then
    .error (.missingOption "importName")
  else
    .ok
      { importPath := options.importPath
        importName := options.importName
        importAs :=
          match options.importAs with
          | some name =>
              if isBlankText name then
                options.importName
              else
                name
          | none => options.importName
        isDefaultImport := options.isDefaultImport
        useConstructorCall := options.useConstructorCall
        attributeHook := none
        extraArgsHook := none }

/- The fields of a configuration on one line. -/
def describe (config : Config T) : String :=
  let truth (value : Bool) : String := if value then "true" else "false"
  "Config \x7b import_path: " ++ Text.shown config.importPath
    ++ ", import_name: " ++ Text.shown config.importName
    ++ ", import_as: " ++ Text.shown config.importAs
    ++ ", is_default_import: " ++ truth config.isDefaultImport
    ++ ", use_constructor_call: " ++ truth config.useConstructorCall
    ++ ", attribute_transform: " ++ truth config.attributeHook.isSome
    ++ ", extra_args: " ++ truth config.extraArgsHook.isSome
    ++ " \x7d"

end Config

end MarkupLowering
