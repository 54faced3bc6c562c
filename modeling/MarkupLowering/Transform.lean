import MarkupLowering.Diagnostic
import MarkupLowering.Outline.Plant
import MarkupLowering.Script.Module
import MarkupLowering.Style
import MarkupLowering.Tree.Lower

/-
  This file lowers whole modules: it reads the source text,
  lowers every element, and adds the import.  All text outside
  elements is kept as it is.

  Key definitions include:
    * `Output`
    * `placeImport`
    * `transform`
    * `transformWith`
-/

namespace MarkupLowering

------------------------------------------------------------
-- Output
------------------------------------------------------------

/- A lowered module and the number of its elements. -/
structure Output where
  code : String
  elementsLowered : Nat
deriving DecidableEq, Repr

/-
  Add an import to the text of a module.  It comes first,
  unless a prologue must stay in front of it.
-/
def placeImport
    (statement root : String)
    (prologueEnd : Nat) : String :=
  if prologueEnd = 0 then
    statement ++ "\n" ++ root
  else
    match Text.splitBytes root.toList prologueEnd with
    | some (head, tail) =>
        String.ofList head ++ "\n" ++ statement
          ++ String.ofList tail
    | none => root ++ "\n" ++ statement

/- The report on text that is no module. -/
def Diagnostic.ofReadError
    (error : Script.ReadError)
    (file source : String) : Diagnostic :=
  atSpan readErrorCode
    ("invalid syntax: " ++ error.cause.message) file source
    error.span

------------------------------------------------------------
-- Transforming
------------------------------------------------------------

/- Lower the elements of a module whose outline is known. -/
def Outline.lower
    (config : Config String)
    (file source : String)
    (outline : Outline) : Except Diagnostic Output :=
  match (outline.plant source).lowerAll Host.text config with
  | .error error =>
      let fallback := Span.between 0 source.utf8ByteSize
      .error (.ofLowerError error file source fallback)
  | .ok lowered =>
      let code :=
        placeImport (Emission.importStatement config)
          lowered.root outline.prologueEnd
      .ok ⟨code, lowered.elementsLowered⟩

/- Lower the elements of a module and add the import. -/
def transform
    (config : Config String)
    (file source : String) : Except Diagnostic Output :=
  match Script.readModule source with
  | .error error => .error (.ofReadError error file source)
  | .ok outline => outline.lower config file source

/- Lower a module as options say. -/
def transformWith
    (options : Options)
    (file source : String) : Except Diagnostic String :=
  match Config.resolve options with
  | .error error => .error (.ofConfigError error file)
  | .ok config => (transform config file source).map (·.code)

end MarkupLowering
