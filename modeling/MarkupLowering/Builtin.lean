/-
  This file names the built-in attribute transforms.

  Key definitions include:
    * `Builtin`
    * `Builtin.names`
-/

namespace MarkupLowering

/- A built-in attribute transform. -/
inductive Builtin where
  | classNameToClass
  | styleObjectToCss
deriving DecidableEq, Repr, Inhabited

namespace Builtin

/- The name of a transform in options. -/
def name : Builtin → String
  | classNameToClass => "classNameToClass"
  | styleObjectToCss => "styleObjectToCss"

/- All transforms by name. -/
def names : List (String × Builtin) :=
  [classNameToClass, styleObjectToCss].map fun builtin =>
    (builtin.name, builtin)

end Builtin

end MarkupLowering
