/-
  This file defines the non-negative finite numbers of the
  64-bit binary format and its arithmetic.  A result that is
  not a number of the format goes to the nearest one, and half
  way between two to the one with the even significand.

  Key definitions include:
    * `Binary64`
    * `Binary64.round`
    * `Binary64.ofNat`
    * `Binary64.mul`
    * `Binary64.div`
-/

namespace MarkupLowering

/- The number `significand * 2 ^ exponent`. -/
structure Binary64 where
  significand : Nat
  exponent : Int
deriving DecidableEq, Repr

namespace Binary64

/- The least exponent of the format. -/
def leastExponent : Int :=
  -1074

/- The greatest exponent of the format. -/
def greatestExponent : Int :=
  971

/- A power of two as a fraction. -/
def powerOfTwo (exponent : Int) : Nat × Nat :=
  if 0 ≤ exponent then
    (Nat.pow 2 exponent.toNat, 1)
  else
    (1, Nat.pow 2 (-exponent).toNat)

/- The number as a fraction. -/
def fraction (x : Binary64) : Nat × Nat :=
  let power := powerOfTwo x.exponent
  (x.significand * power.1, power.2)

/- Zero. -/
def zero : Binary64 :=
  ⟨0, leastExponent⟩

/- The number is zero. -/
def isZero (x : Binary64) : Bool :=
  x.significand == 0

/- A quotient to the nearest integer, half way to the even one. -/
def roundDiv (num den : Nat) : Nat :=
  let quotient := num / den
  let twice := 2 * (num % den)
  if den < twice ∨ (twice = den ∧ quotient % 2 = 1) then
    quotient + 1
  else
    quotient

/- A fraction in units of a power of two, to the nearest integer. -/
def roundAt
    (num den : Nat)
    (exponent : Int) : Nat :=
  let power := powerOfTwo exponent
  roundDiv (num * power.2) (den * power.1)

/-
  The number of the format that is nearest to a fraction.
  There is none when the fraction lies beyond the format.
-/
def round (num den : Nat) : Option Binary64 :=
  if num = 0 then
    some zero
  else
    let low := (num.log2 : Int) - (den.log2 : Int) - 53
    let fits (exponent : Int) : Bool :=
      roundAt num den exponent < Nat.pow 2 53
    let exponents := [low, low + 1, low + 2].map (max leastExponent)
    let exponent := (exponents.find? fits).getD (low + 2)
    if greatestExponent < exponent then
      none
    else
      some ⟨roundAt num den exponent, exponent⟩

/- The number of the format nearest to an integer. -/
def ofNat (n : Nat) : Option Binary64 :=
  round n 1

/- The rounded product. -/
def mul (x y : Binary64) : Option Binary64 :=
  round (x.fraction.1 * y.fraction.1) (x.fraction.2 * y.fraction.2)

/- The rounded quotient.  The divisor is not zero. -/
def div (x y : Binary64) : Option Binary64 :=
  round (x.fraction.1 * y.fraction.2) (x.fraction.2 * y.fraction.1)

end Binary64

end MarkupLowering
