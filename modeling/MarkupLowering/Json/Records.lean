import MarkupLowering.Files
import MarkupLowering.Json.Reader
import MarkupLowering.Json.Writer

/-
  This file writes the records of this library as JSON text
  and reads them again.

  Key definitions include:
    * `Span.toJson`, `Span.decoder`
    * `Position.toJson`, `Position.decoder`
    * `Diagnostic.toJson`, `Diagnostic.decoder`
    * `SourceFile.toJson`, `SourceFile.decoder`
    * `FileResult.toJson`, `FileResult.decoder`
    * `Builtin.toJson`, `Builtin.decoder`
    * `Options.toJson`, `Options.decoder`
    * `Options.ofJson`
-/

namespace MarkupLowering

open Json
open Json.Decoder

------------------------------------------------------------
-- Numbers
------------------------------------------------------------

/- An offset, a line or a column: a number of 32 bits. -/
def placeNumber : Decoder UInt32 :=
  (natural "u32" (Nat.pow 2 32)).map UInt32.ofNat

/- A count: a number of 64 bits. -/
def countNumber : Decoder UInt64 :=
  (natural "usize" (Nat.pow 2 64)).map UInt64.ofNat

------------------------------------------------------------
-- Spans
------------------------------------------------------------

namespace Span

/- A span as JSON text. -/
def toJson (span : Span) : String :=
  Writer.object
    [("start", Writer.natural span.first.toNat),
      ("end", Writer.natural span.past.toNat)]

/- Two numbers, as far as they were read. -/
structure Draft where
  start : Option UInt32 := none
  stop : Option UInt32 := none

/- The fields of a span. -/
def fields : Fields Draft Span where
  start := {}
  member draft name cs := do
    match name with
    | "start" =>
        let (value, rest) ← once name draft.start placeNumber cs
        return ({ draft with start := some value }, rest)
    | "end" =>
        let (value, rest) ← once name draft.stop placeNumber cs
        return ({ draft with stop := some value }, rest)
    | _ =>
        let (_, rest) ← memberValue anything cs
        return (draft, rest)
  finish draft := do
    return ⟨← required "start" draft.start, ← required "end" draft.stop⟩

/- A span as an array. -/
def inArray
    (expected : String)
    (items : Items) : Except Fault (Span × Items) := do
  let (start, items) ← items.next expected placeNumber
  let (stop, items) ← items.next expected placeNumber
  return (⟨start, stop⟩, items)

/- Read a span. -/
def decoder (whole : Bool) : Decoder Span :=
  record "Span" whole inArray fields 2

end Span

------------------------------------------------------------
-- Positions
------------------------------------------------------------

namespace Position

/- A position as JSON text. -/
def toJson (position : Position) : String :=
  Writer.object
    [("line", Writer.natural position.line.toNat),
      ("column", Writer.natural position.column.toNat)]

/- A line and a column, as far as they were read. -/
structure Draft where
  line : Option UInt32 := none
  column : Option UInt32 := none

/- The fields of a position. -/
def fields : Fields Draft Position where
  start := {}
  member draft name cs := do
    match name with
    | "line" =>
        let (value, rest) ← once name draft.line placeNumber cs
        return ({ draft with line := some value }, rest)
    | "column" =>
        let (value, rest) ← once name draft.column placeNumber cs
        return ({ draft with column := some value }, rest)
    | _ =>
        let (_, rest) ← memberValue anything cs
        return (draft, rest)
  finish draft := do
    return ⟨← required "line" draft.line,
      ← required "column" draft.column⟩

/- A position as an array. -/
def inArray
    (expected : String)
    (items : Items) : Except Fault (Position × Items) := do
  let (line, items) ← items.next expected placeNumber
  let (column, items) ← items.next expected placeNumber
  return (⟨line, column⟩, items)

/- Read a position. -/
def decoder (whole : Bool) : Decoder Position :=
  record "LineColumn" whole inArray fields 2

end Position

------------------------------------------------------------
-- Diagnostics
------------------------------------------------------------

namespace Diagnostic

/- A diagnostic as JSON text. -/
def toJson (d : Diagnostic) : String :=
  Writer.object
    [("code", Writer.text d.code), ("message", Writer.text d.message),
      ("file", Writer.text d.file), ("start", d.start.toJson),
      ("end", d.stop.toJson), ("snippet", Writer.text d.snippet)]

/- A diagnostic, as far as it was read. -/
structure Draft where
  code : Option String := none
  message : Option String := none
  file : Option String := none
  start : Option Position := none
  stop : Option Position := none
  snippet : Option String := none

/- The fields of a diagnostic. -/
def fields (whole : Bool) : Fields Draft Diagnostic where
  start := {}
  member draft name cs := do
    match name with
    | "code" =>
        let (value, rest) ← once name draft.code text cs
        return ({ draft with code := some value }, rest)
    | "message" =>
        let (value, rest) ← once name draft.message text cs
        return ({ draft with message := some value }, rest)
    | "file" =>
        let (value, rest) ← once name draft.file text cs
        return ({ draft with file := some value }, rest)
    | "start" =>
        let (value, rest) ←
          once name draft.start (Position.decoder whole) cs
        return ({ draft with start := some value }, rest)
    | "end" =>
        let (value, rest) ←
          once name draft.stop (Position.decoder whole) cs
        return ({ draft with stop := some value }, rest)
    | "snippet" =>
        let (value, rest) ← once name draft.snippet text cs
        return ({ draft with snippet := some value }, rest)
    | _ =>
        let (_, rest) ← memberValue anything cs
        return (draft, rest)
  finish draft := do
    let code ← required "code" draft.code
    let message ← required "message" draft.message
    let file ← required "file" draft.file
    let start ← required "start" draft.start
    let stop ← required "end" draft.stop
    let snippet ← required "snippet" draft.snippet
    return ⟨code, message, file, start, stop, snippet⟩

/- A diagnostic as an array. -/
def inArray
    (whole : Bool)
    (expected : String)
    (items : Items) : Except Fault (Diagnostic × Items) := do
  let (code, items) ← items.next expected text
  let (message, items) ← items.next expected text
  let (file, items) ← items.next expected text
  let (start, items) ← items.next expected (Position.decoder whole)
  let (stop, items) ← items.next expected (Position.decoder whole)
  let (snippet, items) ← items.next expected text
  return (⟨code, message, file, start, stop, snippet⟩, items)

/- Read a diagnostic. -/
def decoder (whole : Bool) : Decoder Diagnostic :=
  record "Diagnostic" whole (inArray whole) (fields whole) 6

end Diagnostic

------------------------------------------------------------
-- Files
------------------------------------------------------------

namespace SourceFile

/- A source file as JSON text. -/
def toJson (file : SourceFile) : String :=
  Writer.object
    [("path", Writer.text file.path), ("code", Writer.text file.code)]

/- A source file, as far as it was read. -/
structure Draft where
  path : Option String := none
  code : Option String := none

/- The fields of a source file. -/
def fields : Fields Draft SourceFile where
  start := {}
  member draft name cs := do
    match name with
    | "path" =>
        let (value, rest) ← once name draft.path text cs
        return ({ draft with path := some value }, rest)
    | "code" =>
        let (value, rest) ← once name draft.code text cs
        return ({ draft with code := some value }, rest)
    | _ =>
        let (_, rest) ← memberValue anything cs
        return (draft, rest)
  finish draft := do
    return ⟨← required "path" draft.path, ← required "code" draft.code⟩

/- A source file as an array. -/
def inArray
    (expected : String)
    (items : Items) : Except Fault (SourceFile × Items) := do
  let (path, items) ← items.next expected text
  let (code, items) ← items.next expected text
  return (⟨path, code⟩, items)

/- Read a source file. -/
def decoder (whole : Bool) : Decoder SourceFile :=
  record "SourceFile" whole inArray fields 2

end SourceFile

namespace FileResult

/- A result as JSON text. -/
def toJson (result : FileResult) : String :=
  Writer.object
    [("path", Writer.text result.path),
      ("code", Writer.optional Writer.text result.code),
      ("elementsLowered",
        Writer.natural result.elementsLowered.toNat),
      ("diagnostic", Writer.optional Diagnostic.toJson result.diagnostic)]

/- A result, as far as it was read. -/
structure Draft where
  path : Option String := none
  code : Option (Option String) := none
  elementsLowered : Option UInt64 := none
  diagnostic : Option (Option Diagnostic) := none

/- The fields of a result. -/
def fields (whole : Bool) : Fields Draft FileResult where
  start := {}
  member draft name cs := do
    match name with
    | "path" =>
        let (value, rest) ← once name draft.path text cs
        return ({ draft with path := some value }, rest)
    | "code" =>
        let (value, rest) ← once name draft.code (optional text) cs
        return ({ draft with code := some value }, rest)
    | "elementsLowered" =>
        let (value, rest) ← once name draft.elementsLowered countNumber cs
        return ({ draft with elementsLowered := some value }, rest)
    | "diagnostic" =>
        let (value, rest) ← once name draft.diagnostic
          (optional (Diagnostic.decoder whole)) cs
        return ({ draft with diagnostic := some value }, rest)
    | _ =>
        let (_, rest) ← memberValue anything cs
        return (draft, rest)
  finish draft := do
    let path ← required "path" draft.path
    let elementsLowered ← required "elementsLowered" draft.elementsLowered
    return ⟨path, draft.code.getD none, elementsLowered,
      draft.diagnostic.getD none⟩

/- A result as an array. -/
def inArray
    (whole : Bool)
    (expected : String)
    (items : Items) : Except Fault (FileResult × Items) := do
  let (path, items) ← items.next expected text
  let (code, items) ← items.next expected (optional text)
  let (elementsLowered, items) ← items.next expected countNumber
  let (diagnostic, items) ←
    items.next expected (optional (Diagnostic.decoder whole))
  return (⟨path, code, elementsLowered, diagnostic⟩, items)

/- Read a result. -/
def decoder (whole : Bool) : Decoder FileResult :=
  record "FileResult" whole (inArray whole) (fields whole) 4

end FileResult

------------------------------------------------------------
-- Options
------------------------------------------------------------

namespace Builtin

/- A built-in transform as JSON text. -/
def toJson (builtin : Builtin) : String :=
  Writer.text builtin.name

/- Read a built-in transform. -/
def decoder (whole : Bool) : Decoder Builtin :=
  variant whole names

end Builtin

namespace Options

/- Options as JSON text. -/
def toJson (options : Options) : String :=
  Writer.object
    [("importPath", Writer.text options.importPath),
      ("importName", Writer.text options.importName),
      ("importAs", Writer.optional Writer.text options.importAs),
      ("isDefaultImport", Writer.boolean options.isDefaultImport),
      ("useConstructorCall", Writer.boolean options.useConstructorCall),
      ("attributeTransforms",
        Writer.list
          (options.attributeTransforms.map Builtin.toJson))]

/- Options, as far as they were read. -/
structure Draft where
  importPath : Option String := none
  importName : Option String := none
  importAs : Option (Option String) := none
  isDefaultImport : Option Bool := none
  useConstructorCall : Option Bool := none
  attributeTransforms : Option (List Builtin) := none

/- The fields of options. -/
def fields (whole : Bool) : Fields Draft Options where
  start := {}
  member draft name cs := do
    match name with
    | "importPath" =>
        let (value, rest) ← once name draft.importPath text cs
        return ({ draft with importPath := some value }, rest)
    | "importName" =>
        let (value, rest) ← once name draft.importName text cs
        return ({ draft with importName := some value }, rest)
    | "importAs" =>
        let (value, rest) ← once name draft.importAs (optional text) cs
        return ({ draft with importAs := some value }, rest)
    | "isDefaultImport" =>
        let (value, rest) ← once name draft.isDefaultImport boolean cs
        return ({ draft with isDefaultImport := some value }, rest)
    | "useConstructorCall" =>
        let (value, rest) ← once name draft.useConstructorCall boolean cs
        return ({ draft with useConstructorCall := some value }, rest)
    | "attributeTransforms" =>
        let (value, rest) ← once name draft.attributeTransforms
          (list (Builtin.decoder whole)) cs
        return ({ draft with attributeTransforms := some value }, rest)
    | _ =>
        let (_, rest) ← memberValue anything cs
        return (draft, rest)
  finish draft := do
    let importPath ← required "importPath" draft.importPath
    let importName ← required "importName" draft.importName
    pure
      { importPath := importPath
        importName := importName
        importAs := draft.importAs.getD none
        isDefaultImport := draft.isDefaultImport.getD false
        useConstructorCall := draft.useConstructorCall.getD true
        attributeTransforms := draft.attributeTransforms.getD [] }

/- Options as an array, whose last fields may be left out. -/
def inArray
    (whole : Bool)
    (expected : String)
    (items : Items) : Except Fault (Options × Items) := do
  let (importPath, items) ← items.next expected text
  let (importName, items) ← items.next expected text
  let (importAs, items) ← items.next? (optional text)
  let (isDefaultImport, items) ← items.next? boolean
  let (useConstructorCall, items) ← items.next? boolean
  let (attributeTransforms, items) ←
    items.next? (list (Builtin.decoder whole))
  pure
    ({ importPath := importPath
       importName := importName
       importAs := importAs.getD none
       isDefaultImport := isDefaultImport.getD false
       useConstructorCall := useConstructorCall.getD true
       attributeTransforms := attributeTransforms.getD [] }, items)

/- Read options. -/
def decoder (whole : Bool) : Decoder Options :=
  record "CompileOptions" whole (inArray whole) (fields whole) 6

/- The options that a JSON text holds. -/
def ofJson (text : String) : Except Fault Options :=
  (decoder false).run text

end Options

end MarkupLowering
