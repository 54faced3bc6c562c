import MarkupLowering.Json.Records
import MarkupLowering.Proofs.Json.Values

/-
  This file shows that the records of this library are read
  from JSON text just as they were written, with any text in
  them and with any fields left out that may be left out.

  Numbers are written in full and have the size that is read:
  32 bits for offsets, lines and columns, and 64 bits for
  counts.

  Key theorems include:
    * `Span.reads_toJson`, `Position.reads_toJson`
    * `Diagnostic.reads_toJson`
    * `SourceFile.reads_toJson`, `FileResult.reads_toJson`
    * `Builtin.reads_toJson`, `Options.reads_toJson`
    * `records_read_back`
-/

namespace MarkupLowering

open Json
open Json.Decoder

------------------------------------------------------------
-- Fields
------------------------------------------------------------

theorem reads_placeNumber
    (n : UInt32) :
    placeNumber.Reads (Writer.natural n.toNat) n := by
  have hReads :=
    reads_natural (by decide) n.toNat_lt "u32"
  have hNumber := reads_map hReads UInt32.ofNat
  rw [UInt32.ofNat_toNat] at hNumber
  exact hNumber

theorem reads_countNumber
    (n : UInt64) :
    countNumber.Reads (Writer.natural n.toNat) n := by
  have hReads :=
    reads_natural (Nat.le_refl _) n.toNat_lt "usize"
  have hNumber := reads_map hReads UInt64.ofNat
  rw [UInt64.ofNat_toNat] at hNumber
  exact hNumber

/- A text that may be missing. -/
theorem reads_optionalText
    (value? : Option String) :
    (optional text).Reads
      (Writer.optional Writer.text value?) value? :=
  reads_optional (fun value _ => opensMarked_text value)
    (fun value _ => reads_text value)

------------------------------------------------------------
-- Records
------------------------------------------------------------

theorem Span.reads_toJson
    (span : Span)
    (whole : Bool) :
    (Span.decoder whole).Reads span.toJson span := by
  refine
    reads_record ⟨some span.first, some span.past⟩ ?_ rfl _ _ _ _
  apply Fields.Collects.next
  · exact fun _ hRest =>
      once_bind (reads_placeNumber span.first) hRest "start" _
  apply Fields.Collects.next
  · exact fun _ hRest =>
      once_bind (reads_placeNumber span.past) hRest "end" _
  exact Fields.Collects.done _

theorem Position.reads_toJson
    (position : Position)
    (whole : Bool) :
    (Position.decoder whole).Reads position.toJson position := by
  refine
    reads_record ⟨some position.line, some position.column⟩ ?_
      rfl _ _ _ _
  apply Fields.Collects.next
  · exact fun _ hRest =>
      once_bind (reads_placeNumber position.line) hRest "line" _
  apply Fields.Collects.next
  · exact fun _ hRest =>
      once_bind (reads_placeNumber position.column) hRest
        "column" _
  exact Fields.Collects.done _

theorem Diagnostic.reads_toJson
    (d : Diagnostic)
    (whole : Bool) :
    (Diagnostic.decoder whole).Reads d.toJson d := by
  refine
    reads_record
      ⟨some d.code, some d.message, some d.file, some d.start,
        some d.stop, some d.snippet⟩
      ?_ rfl _ _ _ _
  apply Fields.Collects.next
  · exact fun _ hRest =>
      once_bind (reads_text d.code) hRest "code" _
  apply Fields.Collects.next
  · exact fun _ hRest =>
      once_bind (reads_text d.message) hRest "message" _
  apply Fields.Collects.next
  · exact fun _ hRest =>
      once_bind (reads_text d.file) hRest "file" _
  apply Fields.Collects.next
  · exact fun _ hRest =>
      once_bind (d.start.reads_toJson whole) hRest "start" _
  apply Fields.Collects.next
  · exact fun _ hRest =>
      once_bind (d.stop.reads_toJson whole) hRest "end" _
  apply Fields.Collects.next
  · exact fun _ hRest =>
      once_bind (reads_text d.snippet) hRest "snippet" _
  exact Fields.Collects.done _

theorem SourceFile.reads_toJson
    (file : SourceFile)
    (whole : Bool) :
    (SourceFile.decoder whole).Reads file.toJson file := by
  refine
    reads_record ⟨some file.path, some file.code⟩ ?_ rfl _ _ _ _
  apply Fields.Collects.next
  · exact fun _ hRest =>
      once_bind (reads_text file.path) hRest "path" _
  apply Fields.Collects.next
  · exact fun _ hRest =>
      once_bind (reads_text file.code) hRest "code" _
  exact Fields.Collects.done _

theorem FileResult.reads_toJson
    (result : FileResult)
    (whole : Bool) :
    (FileResult.decoder whole).Reads result.toJson result := by
  have hDiagnostic :
      (optional (Diagnostic.decoder whole)).Reads
        (Writer.optional Diagnostic.toJson result.diagnostic)
        result.diagnostic :=
    reads_optional (fun _ _ => opensMarked_object _)
      (fun d _ => d.reads_toJson whole)
  refine
    reads_record
      ⟨some result.path, some result.code,
        some result.elementsLowered, some result.diagnostic⟩
      ?_ rfl _ _ _ _
  apply Fields.Collects.next
  · exact fun _ hRest =>
      once_bind (reads_text result.path) hRest "path" _
  apply Fields.Collects.next
  · exact fun _ hRest =>
      once_bind (reads_optionalText result.code) hRest "code" _
  apply Fields.Collects.next
  · exact fun _ hRest =>
      once_bind (reads_countNumber result.elementsLowered) hRest
        "elementsLowered" _
  apply Fields.Collects.next
  · exact fun _ hRest =>
      once_bind hDiagnostic hRest "diagnostic" _
  exact Fields.Collects.done _

theorem Builtin.reads_toJson
    (builtin : Builtin)
    (whole : Bool) :
    (Builtin.decoder whole).Reads builtin.toJson builtin :=
  reads_variant (by cases builtin <;> decide) whole

theorem Options.reads_toJson
    (options : Options)
    (whole : Bool) :
    (Options.decoder whole).Reads options.toJson options := by
  have hTransforms :
      (list (Builtin.decoder whole)).Reads
        (Writer.list
          (options.attributeTransforms.map Builtin.toJson))
        options.attributeTransforms :=
    reads_list (fun builtin _ => opensMarked_text builtin.name)
      (fun builtin _ => builtin.reads_toJson whole)
  refine
    reads_record
      ⟨some options.importPath, some options.importName,
        some options.importAs, some options.isDefaultImport,
        some options.useConstructorCall,
        some options.attributeTransforms⟩
      ?_ rfl _ _ _ _
  apply Fields.Collects.next
  · exact fun _ hRest =>
      once_bind (reads_text options.importPath) hRest
        "importPath" _
  apply Fields.Collects.next
  · exact fun _ hRest =>
      once_bind (reads_text options.importName) hRest
        "importName" _
  apply Fields.Collects.next
  · exact fun _ hRest =>
      once_bind (reads_optionalText options.importAs) hRest
        "importAs" _
  apply Fields.Collects.next
  · exact fun _ hRest =>
      once_bind (reads_boolean options.isDefaultImport) hRest
        "isDefaultImport" _
  apply Fields.Collects.next
  · exact fun _ hRest =>
      once_bind (reads_boolean options.useConstructorCall) hRest
        "useConstructorCall" _
  apply Fields.Collects.next
  · exact fun _ hRest =>
      once_bind hTransforms hRest "attributeTransforms" _
  exact Fields.Collects.done _

------------------------------------------------------------
-- Documents
------------------------------------------------------------

/-
  Every record is read back from the JSON text it is written
  as, and nothing of it is lost.
-/
theorem records_read_back
    (whole : Bool) :
    (∀ options : Options,
      (Options.decoder whole).run options.toJson = .ok options ∧
        Options.ofJson options.toJson = .ok options) ∧
      (∀ builtin : Builtin,
        (Builtin.decoder whole).run builtin.toJson =
          .ok builtin) ∧
      (∀ file : SourceFile,
        (SourceFile.decoder whole).run file.toJson = .ok file) ∧
      (∀ result : FileResult,
        (FileResult.decoder whole).run result.toJson =
          .ok result) ∧
      (∀ d : Diagnostic,
        (Diagnostic.decoder whole).run d.toJson = .ok d) ∧
      (∀ position : Position,
        (Position.decoder whole).run position.toJson =
          .ok position) ∧
      ∀ span : Span,
        (Span.decoder whole).run span.toJson = .ok span := by
  refine ⟨?_, ?_, ?_, ?_, ?_, ?_, ?_⟩
  · intro options
    exact
      ⟨(options.reads_toJson whole).run,
        (options.reads_toJson false).run⟩
  · intro builtin
    exact (builtin.reads_toJson whole).run
  · intro file
    exact (file.reads_toJson whole).run
  · intro result
    exact (result.reads_toJson whole).run
  · intro d
    exact (d.reads_toJson whole).run
  · intro position
    exact (position.reads_toJson whole).run
  · intro span
    exact (span.reads_toJson whole).run

/-
  A result with the greatest numbers, with signs that must be
  escaped, and without code.
-/
def crowdedResult : FileResult where
  path := "a\\b\"c.tsx"
  code := none
  elementsLowered := 18446744073709551615
  diagnostic :=
    some
      { code := "JSX2TTL-ERR-TAG"
        message := "tab\there"
        file := "naïve.tsx"
        start := ⟨4294967295, 1⟩
        stop := ⟨4294967295, 4294967295⟩
        snippet := "\x01\n" }

theorem records_read_back_crowded :
    (FileResult.decoder false).run crowdedResult.toJson =
        .ok crowdedResult ∧
      (Span.decoder false).run
          (Span.toJson ⟨0, 4294967295⟩) =
        .ok ⟨0, 4294967295⟩ := by
  rcases records_read_back false with
    ⟨_, _, _, hResult, _, _, hSpan⟩
  exact ⟨hResult crowdedResult, hSpan ⟨0, 4294967295⟩⟩

end MarkupLowering
