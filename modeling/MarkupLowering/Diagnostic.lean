import MarkupLowering.Fault
import MarkupLowering.Options
import MarkupLowering.Text.Position

/-
  This file defines diagnostics: an error with its code, its
  file, its place by line and column, and the source text at
  that place.

  Key definitions include:
    * `Diagnostic`
    * `Diagnostic.atSpan`
    * `Diagnostic.ofLowerError`
    * `Diagnostic.ofConfigError`
    * `Diagnostic.display`
-/

namespace MarkupLowering

/- A report on a source file. -/
structure Diagnostic where
  code : String
  message : String
  file : String
  start : Position
  stop : Position
  snippet : String
deriving DecidableEq, Repr

namespace Diagnostic

/- The code of text that is no module. -/
def readErrorCode : String :=
  "JSX2TTL-ERR-SYNTAX"

/- The code of options that are refused. -/
def configCode : String :=
  "JSX2TTL-ERR-CONFIG"

/- A report on a span of a source text. -/
def atSpan
    (code message file source : String)
    (span : Span) : Diagnostic :=
  let table := LineTable.ofSource source
  { code := code
    message := message
    file := file
    start := table.position span.first
    stop := table.position span.past
    snippet := span.textOf source }

/-
  A report on an element.  An error without a place is reported
  at `fallback`.
-/
def ofLowerError
    (error : LowerError)
    (file source : String)
    (fallback : Span) : Diagnostic :=
  atSpan error.cause.code error.cause.message file source
    (error.span.getD fallback)

/- A report on options. -/
def ofConfigError
    (error : ConfigError)
    (file : String) : Diagnostic :=
  atSpan configCode error.message file "" Span.zero

/- The report as text. -/
def display (d : Diagnostic) : String :=
  d.file ++ ":" ++ d.start.display ++ "-" ++ d.stop.display
    ++ " [" ++ d.code ++ "] " ++ d.message ++ "\n\t" ++ d.snippet

end Diagnostic

end MarkupLowering
