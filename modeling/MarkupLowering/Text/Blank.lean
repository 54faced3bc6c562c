import MarkupLowering.Text.CodeRanges

/-
  This file decides which characters are blank and which end
  a line.  Two classes of blanks are in use: text is trimmed
  by the Unicode property `White_Space`, and a script is read
  with the space characters, the tabulators, the form feed,
  the zero-width space and the byte order mark as blanks.

  Key definitions include:
    * `isWhite`
    * `trim`
    * `isScriptBlank`
    * `isLineEnd`
-/

namespace MarkupLowering.Text

/- Characters of `White_Space`. -/
def whiteRanges : CodeRanges :=
  [(0x9, 0xD), (0x20, 0x20), (0x85, 0x85), (0xA0, 0xA0),
    (0x1680, 0x1680), (0x2000, 0x200A), (0x2028, 0x2029),
    (0x202F, 0x202F), (0x205F, 0x205F), (0x3000, 0x3000)]

/- The character has the property `White_Space`. -/
def isWhite (c : Char) : Bool :=
  whiteRanges.covers c

/- The characters without the white ones at both ends. -/
def trimChars (cs : List Char) : List Char :=
  ((cs.dropWhile isWhite).reverse.dropWhile isWhite).reverse

/- The text without the white characters at both ends. -/
def trim (text : String) : String :=
  String.ofList (trimChars text.toList)

/- Blanks of a script, line ends aside. -/
def scriptBlankRanges : CodeRanges :=
  [(0x9, 0x9), (0xB, 0xC), (0x20, 0x20), (0x85, 0x85),
    (0xA0, 0xA0), (0x1680, 0x1680), (0x2000, 0x200B),
    (0x202F, 0x202F), (0x205F, 0x205F), (0x3000, 0x3000),
    (0xFEFF, 0xFEFF)]

/- The character is a blank of a script, and ends no line. -/
def isScriptBlank (c : Char) : Bool :=
  scriptBlankRanges.covers c

/-
  The character ends a line of a script: a line feed, a
  carriage return, a line separator or a paragraph separator.
-/
def isLineEnd (c : Char) : Bool :=
  [0xA, 0xD, 0x2028, 0x2029].contains c.toNat

end MarkupLowering.Text
