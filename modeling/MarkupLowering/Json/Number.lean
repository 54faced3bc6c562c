import MarkupLowering.Number.Binary64

/-
  This file reads the numbers of JSON text.

  A number without fraction and exponent is an integer as
  long as it fits into 64 bits.  Every other number is a
  number of the 64-bit binary format: its leading digits, as
  many as fit into 64 bits, times or over a power of ten.

  Key definitions include:
    * `Json.Number`
    * `Json.Number.read`
-/

namespace MarkupLowering.Json

/- A number of JSON text. -/
inductive Number where
  | natural (value : Nat)
  | negative (magnitude : Nat)
  | real (isNegative : Bool) (magnitude : Binary64)
deriving DecidableEq, Repr

namespace Number

------------------------------------------------------------
-- Digits
------------------------------------------------------------

/- The bound of the integers. -/
def bound : Nat :=
  Nat.pow 2 64

/- The value of a decimal digit. -/
def digitValue (c : Char) : Nat :=
  c.toNat - 0x30

/-
  Add digits to a significand as long as it stays below the
  bound.  The digits that were left out are counted.
-/
def absorb : Nat → List Char → Nat × Nat
  | significand, [] => (significand, 0)
  | significand, c :: cs =>
      let next := significand * 10 + digitValue c
      if next < bound then
        absorb next cs
      else
        (significand, cs.length + 1)

/- The digits at the front and what follows. -/
def spanDigits (cs : List Char) : List Char × List Char :=
  (cs.takeWhile Char.isDigit, cs.dropWhile Char.isDigit)

------------------------------------------------------------
-- Values
------------------------------------------------------------

/- A power of ten in the binary format. -/
def power (exponent : Nat) : Option Binary64 :=
  Binary64.ofNat (Nat.pow 10 exponent)

/- The greatest power of ten that is used at once. -/
def greatestPower : Nat :=
  308

/-
  A number times ten to a negative power, by steps of the
  greatest power.  Four steps leave nothing of any number.
-/
def shrink : (steps : Nat) → Binary64 → (exponent : Nat) → Option Binary64
  | 0, _, _ => some Binary64.zero
  | steps + 1, x, exponent =>
      if exponent ≤ greatestPower then
        (power exponent).bind x.div
      else if x.isZero then
        some x
      else
        ((power greatestPower).bind x.div).bind fun x =>
          shrink steps x (exponent - greatestPower)

/- A significand times a power of ten. -/
def scale
    (significand : Nat)
    (exponent : Int) : Option Binary64 :=
  (Binary64.ofNat significand).bind fun x =>
    if exponent < 0 then
      shrink 4 x (-exponent).toNat
    else if exponent ≤ greatestPower then
      (power exponent.toNat).bind x.mul
    else if x.isZero then
      some x
    else
      none

/- The value of a whole number. -/
def whole
    (isNegative : Bool)
    (digits : List Char) : Option Number :=
  match absorb 0 digits with
  | (value, 0) =>
      if !isNegative then
        some (.natural value)
      else if 0 < value ∧ value ≤ Nat.pow 2 63 then
        some (.negative value)
      else
        (Binary64.ofNat value).map (.real true)
  | (significand, dropped) =>
      (scale significand dropped).map (.real isNegative)

/- The value of a number with a fraction or an exponent. -/
def broken
    (isNegative : Bool)
    (digits fraction : List Char)
    (exponent : Int) : Option Number :=
  let (significand, dropped) := absorb 0 digits
  let (full, left) := absorb significand fraction
  let places : Int := (dropped : Int) - ((fraction.length : Int) - left)
  (scale full (places + exponent)).map (.real isNegative)

------------------------------------------------------------
-- Reading
------------------------------------------------------------

/- A number of decimal digits. -/
def natOf (digits : List Char) : Nat :=
  digits.foldl (fun n c => n * 10 + digitValue c) 0

/- The fraction at the front, if there is one. -/
def readFraction : List Char → Option (List Char × List Char)
  | '.' :: rest =>
      match spanDigits rest with
      | ([], _) => none
      | (digits, rest) => some (digits, rest)
  | rest => some ([], rest)

/- The sign of an exponent: true for minus. -/
def readSign : List Char → Bool × List Char
  | '+' :: rest => (false, rest)
  | '-' :: rest => (true, rest)
  | rest => (false, rest)

/- The exponent at the front, if there is one. -/
def readExponent : List Char → Option (Option Int × List Char)
  | c :: rest =>
      if c = 'e' ∨ c = 'E' then
        let (isNegative, rest) := readSign rest
        match spanDigits rest with
        | ([], _) => none
        | (digits, rest) =>
            let size : Int := natOf digits
            some (some (if isNegative then -size else size), rest)
      else
        some (none, c :: rest)
  | [] => some (none, [])

/- The number at the front, after its sign. -/
def readUnsigned
    (isNegative : Bool)
    (cs : List Char) : Option (Number × List Char) :=
  match spanDigits cs with
  | ([], _) => none
  | ('0' :: _ :: _, _) => none
  | (digits, rest) =>
      match readFraction rest with
      | none => none
      | some (fraction, rest) =>
          match readExponent rest with
          | none => none
          | some (none, rest) =>
              if fraction.isEmpty then
                (whole isNegative digits).map fun number => (number, rest)
              else
                (broken isNegative digits fraction 0).map fun number =>
                  (number, rest)
          | some (some exponent, rest) =>
              (broken isNegative digits fraction exponent).map
                fun number => (number, rest)

/- The number at the front and what follows it. -/
def read : List Char → Option (Number × List Char)
  | '-' :: rest => readUnsigned true rest
  | cs => readUnsigned false cs

end Number

end MarkupLowering.Json
