/-
  This file defines double-quoted text: how a text is written
  between double quotes, and how such a literal is read back.

  Written literals escape the double quote, the backslash and
  the control characters below the space; every other
  character stands for itself.  Reading also accepts the
  escaped slash and any character by its hexadecimal code,
  where a character beyond 16 bits takes a surrogate pair.

  Key definitions include:
    * `Quoted.escape`
    * `Quoted.literal`
    * `Quoted.readBody`
    * `Quoted.read`
-/

namespace MarkupLowering.Text.Quoted

------------------------------------------------------------
-- Writing
------------------------------------------------------------

/- A hexadecimal digit in lower case. -/
def hexDigit (n : Nat) : Char :=
  if n < 10 then
    Char.ofNat (0x30 + n)
  else
    Char.ofNat (0x57 + n)

/- One character as it is written inside double quotes. -/
def escape (c : Char) : List Char :=
  if c = '"' then ['\\', '"']
  else if c = '\\' then ['\\', '\\']
  else if c.toNat = 0x8 then ['\\', 'b']
  else if c.toNat = 0x9 then ['\\', 't']
  else if c.toNat = 0xA then ['\\', 'n']
  else if c.toNat = 0xC then ['\\', 'f']
  else if c.toNat = 0xD then ['\\', 'r']
  else if c.toNat < 0x20 then
    ['\\', 'u', '0', '0', hexDigit (c.toNat / 16),
      hexDigit (c.toNat % 16)]
  else [c]

/- The characters of the literal of a text. -/
def literalChars (cs : List Char) : List Char :=
  '"' :: (cs.flatMap escape ++ ['"'])

/- The literal of a text, with its quotes. -/
def literal (text : String) : String :=
  String.ofList (literalChars text.toList)

------------------------------------------------------------
-- Reading
------------------------------------------------------------

/- The value of a hexadecimal digit of either case. -/
def hexValue? (c : Char) : Option Nat :=
  if '0' ≤ c ∧ c ≤ '9' then some (c.toNat - 0x30)
  else if 'a' ≤ c ∧ c ≤ 'f' then some (c.toNat - 0x57)
  else if 'A' ≤ c ∧ c ≤ 'F' then some (c.toNat - 0x37)
  else none

/- The number of four hexadecimal digits. -/
def hexValue4? (a b c d : Char) : Option Nat :=
  match hexValue? a, hexValue? b, hexValue? c, hexValue? d with
  | some a, some b, some c, some d =>
      some (((a * 16 + b) * 16 + c) * 16 + d)
  | _, _, _, _ => none

/- The code is the first half of a surrogate pair. -/
def isHighHalf (n : Nat) : Bool :=
  0xD800 ≤ n && n ≤ 0xDBFF

/- The code is the second half of a surrogate pair. -/
def isLowHalf (n : Nat) : Bool :=
  0xDC00 ≤ n && n ≤ 0xDFFF

/- The character of a surrogate pair. -/
def pairChar (high low : Nat) : Char :=
  Char.ofNat (0x10000 + (high - 0xD800) * 0x400 + (low - 0xDC00))

/- The character of a one-letter escape. -/
def shortEscape? (c : Char) : Option Char :=
  if c = '"' ∨ c = '\\' ∨ c = '/' then some c
  else if c = 'b' then some (Char.ofNat 0x8)
  else if c = 't' then some (Char.ofNat 0x9)
  else if c = 'n' then some (Char.ofNat 0xA)
  else if c = 'f' then some (Char.ofNat 0xC)
  else if c = 'r' then some (Char.ofNat 0xD)
  else none

/- One more character of a text that was read. -/
def prepend
    (c : Char)
    (result : Option (List Char × List Char)) :
    Option (List Char × List Char) :=
  match result with
  | some (cs, rest) => some (c :: cs, rest)
  | none => none

/-
  The text up to the closing quote and the characters after
  it.  A control character, an unknown escape, half a
  surrogate pair and a missing quote make the literal
  unreadable.
-/
def readBody : List Char → Option (List Char × List Char)
  | [] => none
  | c :: rest =>
      if c = '"' then
        some ([], rest)
      else if c = '\\' then
        match rest with
        | 'u' :: a :: b :: c :: d :: rest =>
            match hexValue4? a b c d with
            | none => none
            | some high =>
                if isHighHalf high then
                  match rest with
                  | '\\' :: 'u' :: a :: b :: c :: d :: rest =>
                      match hexValue4? a b c d with
                      | none => none
                      | some low =>
                          if isLowHalf low then
                            prepend (pairChar high low) (readBody rest)
                          else
                            none
                  | _ => none
                else if isLowHalf high then
                  none
                else
                  prepend (Char.ofNat high) (readBody rest)
        | e :: rest =>
            match shortEscape? e with
            | some e => prepend e (readBody rest)
            | none => none
        | [] => none
      else if c.toNat < 0x20 then
        none
      else
        prepend c (readBody rest)

/-
  The text of the literal at the front and the characters
  after it.
-/
def read : List Char → Option (List Char × List Char)
  | '"' :: rest => readBody rest
  | _ => none

end MarkupLowering.Text.Quoted
