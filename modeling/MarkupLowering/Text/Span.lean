/-
  This file defines byte ranges of a source text and the text
  they denote.  Offsets count the bytes of the UTF-8 form.

  Key definitions include:
    * `byteLength`
    * `splitBytes`
    * `clip`
    * `Span`
    * `Span.textOf`
-/

namespace MarkupLowering.Text

------------------------------------------------------------
-- Bytes of Text
------------------------------------------------------------

/- The number of bytes of the characters. -/
def byteLength : List Char → Nat
  | [] => 0
  | c :: cs => c.utf8Size + byteLength cs

/-
  The characters before and after a byte offset.  There are
  none when the offset lies past the end or inside a
  character.
-/
def splitBytes : List Char → Nat → Option (List Char × List Char)
  | cs, 0 => some ([], cs)
  | [], _ + 1 => none
  | c :: cs, n + 1 =>
      if c.utf8Size ≤ n + 1 then
        match splitBytes cs (n + 1 - c.utf8Size) with
        | some (before, after) => some (c :: before, after)
        | none => none
      else
        none

/-
  The characters between two offsets.  An offset past the end
  is taken as the end, and there are none if an offset lies
  inside a character.
-/
def clip
    (source : List Char)
    (start stop : Nat) : List Char :=
  let stop := min stop (byteLength source)
  let start := min start stop
  match splitBytes source start with
  | none => []
  | some (_, rest) =>
      match splitBytes rest (stop - start) with
      | none => []
      | some (inside, _) => inside

end MarkupLowering.Text

namespace MarkupLowering

------------------------------------------------------------
-- Spans
------------------------------------------------------------

/-
  A range of bytes of a source text: the offset of its first
  byte and the one past its last byte, both of 32 bits.
-/
structure Span where
  first : UInt32
  past : UInt32
deriving DecidableEq, Repr, Inhabited

namespace Span

/- The offset at which a span starts, as a number. -/
def start (span : Span) : Nat :=
  span.first.toNat

/- The offset at which a span stops, as a number. -/
def stop (span : Span) : Nat :=
  span.past.toNat

/- The empty range at the start of a text. -/
def zero : Span :=
  ⟨0, 0⟩

/- The span between two offsets, which are cut to 32 bits. -/
def between (start stop : Nat) : Span :=
  ⟨UInt32.ofNat start, UInt32.ofNat stop⟩

/- The characters a span denotes. -/
def charsOf
    (span : Span)
    (source : List Char) : List Char :=
  Text.clip source span.start span.stop

/- The text a span denotes. -/
def textOf
    (span : Span)
    (source : String) : String :=
  String.ofList (span.charsOf source.toList)

end Span

end MarkupLowering
