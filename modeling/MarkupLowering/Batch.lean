import MarkupLowering.Files
import MarkupLowering.Transform

/-
  This file lowers several files with one configuration.  A
  file that fails does not stop the others.

  Key definitions include:
    * `FileResult.ofOutcome`
    * `transformAll`
-/

namespace MarkupLowering

/- What became of a file. -/
def FileResult.ofOutcome
    (path : String)
    (outcome : Except Diagnostic Output) : FileResult :=
  match outcome with
  | .ok output =>
      { path := path
        code := some output.code
        elementsLowered := .ofNat output.elementsLowered
        diagnostic := none }
  | .error diagnostic =>
      { path := path
        code := none
        elementsLowered := 0
        diagnostic := some diagnostic }

/- Lower every file, in order. -/
def transformAll
    (config : Config String)
    (files : List SourceFile) : List FileResult :=
  files.map fun file =>
    .ofOutcome file.path
      (transform config file.path file.code)

end MarkupLowering
