import MarkupLowering.Diagnostic

/-
  This file defines source files and what becomes of them.

  Key definitions include:
    * `SourceFile`
    * `FileResult`
    * `FileResult.isOk`
    * `FileResult.countFailed`
-/

namespace MarkupLowering

/- A source file. -/
structure SourceFile where
  path : String
  code : String
deriving DecidableEq, Repr, Inhabited

/- The lowered code of a file, or the report on it. -/
structure FileResult where
  path : String
  code : Option String
  elementsLowered : UInt64
  diagnostic : Option Diagnostic
deriving DecidableEq, Repr

namespace FileResult

/- The file was lowered. -/
def isOk (result : FileResult) : Bool :=
  result.diagnostic.isNone

/- The number of files that were not lowered. -/
def countFailed (results : List FileResult) : Nat :=
  results.countP fun result => !result.isOk

end FileResult

end MarkupLowering
