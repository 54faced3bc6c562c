import MarkupLowering.Number.Binary64

/-
  This file writes numbers of the 64-bit binary format with
  the fewest decimal digits from which the number can be told
  again, and of those with the digits nearest to it.

  A number is written positionally when its first digit stands
  at a place from 10 ^ -5 to 10 ^ 15, and with an exponent
  otherwise.

  Key definitions include:
    * `Binary64.Decimal`
    * `Binary64.shortest`
    * `Binary64.text`
-/

namespace MarkupLowering.Binary64

------------------------------------------------------------
-- Shortest Decimals
------------------------------------------------------------

/- The decimal `digits * 10 ^ exponent`. -/
structure Decimal where
  digits : Nat
  exponent : Int
deriving DecidableEq, Repr

/- A power of ten as a fraction. -/
def powerOfTen (exponent : Int) : Nat × Nat :=
  if 0 ≤ exponent then
    (Nat.pow 10 exponent.toNat, 1)
  else
    (1, Nat.pow 10 (-exponent).toNat)

/- The decimal as a fraction. -/
def Decimal.fraction (decimal : Decimal) : Nat × Nat :=
  let power := powerOfTen decimal.exponent
  (decimal.digits * power.1, power.2)

/- The first fraction is at most the second. -/
def fractionLE (x y : Nat × Nat) : Bool :=
  x.1 * y.2 ≤ y.1 * x.2

/- The distance of two fractions. -/
def fractionGap (x y : Nat × Nat) : Nat × Nat :=
  (((x.1 * y.2 : Nat) - (y.1 * x.2 : Nat) : Int).natAbs, x.2 * y.2)

/- The middle between a number and the next larger one. -/
def upperMiddle (x : Binary64) : Nat × Nat :=
  fraction ⟨2 * x.significand + 1, x.exponent - 1⟩

/- The middle between a number and the next smaller one. -/
def lowerMiddle (x : Binary64) : Nat × Nat :=
  if x.significand = Nat.pow 2 52 ∧ leastExponent < x.exponent then
    fraction ⟨4 * x.significand - 1, x.exponent - 2⟩
  else
    fraction ⟨2 * x.significand - 1, x.exponent - 1⟩

/- The decimal is read as the number. -/
def readsAs
    (x : Binary64)
    (decimal : Decimal) : Bool :=
  let value := decimal.fraction
  if x.significand % 2 = 0 then
    fractionLE x.lowerMiddle value && fractionLE value x.upperMiddle
  else
    !fractionLE value x.lowerMiddle && !fractionLE x.upperMiddle value

/- The place of the first decimal digit of a number above zero. -/
def leadingPlace (x : Binary64) : Int :=
  let value := x.fraction
  let guess : Int :=
    ((value.1.log2 : Int) - (value.2.log2 : Int)) * 30103 / 100000
  let atMost (place : Int) : Bool := fractionLE (powerOfTen place) value
  ([guess + 2, guess + 1, guess, guess - 1].find? atMost).getD (guess - 2)

/- The nearest decimal of a number of digits that is read as it. -/
def withDigits?
    (x : Binary64)
    (count : Nat) : Option Decimal :=
  let exponent := x.leadingPlace + 1 - count
  let value := x.fraction
  let unit := powerOfTen exponent
  let below := (value.1 * unit.2) / (value.2 * unit.1)
  let candidates :=
    ([⟨below, exponent⟩, ⟨below + 1, exponent⟩] : List Decimal)
  match candidates.filter x.readsAs with
  | [] => none
  | [one] => some one
  | first :: second :: _ =>
      let gap (d : Decimal) := fractionGap d.fraction value
      if fractionLE (gap first) (gap second) then
        some first
      else
        some second

/- The shortest decimal of a number above zero. -/
def shortest (x : Binary64) : Decimal :=
  ((List.range 17).findSome? fun count =>
    x.withDigits? (count + 1)).getD ⟨0, 0⟩

------------------------------------------------------------
-- Text
------------------------------------------------------------

/- The digits of a decimal without closing zeros. -/
def trimZeros : Nat → Decimal → Decimal
  | 0, decimal => decimal
  | fuel + 1, decimal =>
      if decimal.digits ≠ 0 ∧ decimal.digits % 10 = 0 then
        trimZeros fuel ⟨decimal.digits / 10, decimal.exponent + 1⟩
      else
        decimal

/- A row of zeros. -/
def zeros (count : Nat) : String :=
  String.ofList (List.replicate count '0')

/- A decimal as text. -/
def Decimal.text (decimal : Decimal) : String :=
  let digits := toString decimal.digits
  let count := digits.length
  let place : Int := (count : Int) - 1 + decimal.exponent
  let first := String.ofList (digits.toList.take 1)
  let others := String.ofList (digits.toList.drop 1)
  if -5 ≤ place ∧ place ≤ 15 then
    if 0 ≤ decimal.exponent then
      digits ++ zeros decimal.exponent.toNat ++ ".0"
    else if 0 ≤ place then
      String.ofList (digits.toList.take (place.toNat + 1)) ++ "."
        ++ String.ofList (digits.toList.drop (place.toNat + 1))
    else
      "0." ++ zeros ((-place).toNat - 1) ++ digits
  else
    (if others.isEmpty then first else first ++ "." ++ others)
      ++ (if 0 ≤ place then
            "e+" ++ toString place.toNat
          else
            "e-" ++ toString (-place).toNat)

/- A number as text. -/
def text (x : Binary64) : String :=
  if x.isZero then
    "0.0"
  else
    (trimZeros 17 x.shortest).text

end MarkupLowering.Binary64
