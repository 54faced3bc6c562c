import MarkupLowering.Json.Number

/-
  This file shows that the digits of a natural number are read
  back as the number, as long as it fits into 64 bits and what
  follows is no part of a number.

  Key definitions include:
    * `Json.Number.isInside`

  Key theorems include:
    * `Json.Number.absorb_eq`
    * `Json.Number.whole_toDigits`
    * `Json.Number.read_toDigits`
-/

namespace MarkupLowering.Json.Number

------------------------------------------------------------
-- Digits
------------------------------------------------------------

/- Digits that are added to a significand do not lessen it. -/
theorem le_ofDigitChars
    (significand : Nat)
    (digits : List Char) :
    significand ≤ Nat.ofDigitChars 10 digits significand := by
  rw [Nat.ofDigitChars_eq_ofDigitChars_zero]
  have hPower : 0 < 10 ^ digits.length :=
    Nat.pow_pos (by decide)
  exact
    Nat.le_trans (Nat.le_mul_of_pos_left significand hPower)
      (Nat.le_add_right _ _)

/- Digits are all taken as long as their number is in bounds. -/
theorem absorb_eq
    {significand : Nat}
    {digits : List Char}
    (hBound :
      Nat.ofDigitChars 10 digits significand < bound) :
    absorb significand digits =
      (Nat.ofDigitChars 10 digits significand, 0) := by
  induction digits generalizing significand with
  | nil => rfl
  | cons c rest ih =>
      have hNext :
          significand * 10 + digitValue c =
            10 * significand + (c.toNat - '0'.toNat) := by
        rw [Nat.mul_comm]
        rfl
      rw [Nat.ofDigitChars_cons] at hBound ⊢
      have hFits :
          10 * significand + (c.toNat - '0'.toNat) < bound :=
        Nat.lt_of_le_of_lt (le_ofDigitChars _ rest) hBound
      simp only [absorb, hNext, if_pos hFits]
      exact ih hBound

theorem isDigit_of_mem
    {n : Nat}
    {c : Char}
    (hMem : c ∈ Nat.toDigits 10 n) :
    c.isDigit = true :=
  Nat.isDigit_of_mem_toDigits (by decide) (by decide) hMem

/- The first digit is zero just for the number zero. -/
theorem head?_toDigits_ne_zero
    {n : Nat}
    (hPos : 0 < n) :
    (Nat.toDigits 10 n).head? ≠ some '0' := by
  induction n using Nat.strongRecOn with
  | ind n ih =>
      rw [Nat.toDigits_eq_if (by decide)]
      split
      · intro hZero
        rw [List.head?_cons, Option.some.injEq,
          Nat.digitChar_eq_zero] at hZero
        omega
      · have hRest := ih (n / 10) (by omega) (by omega)
        cases hDigits : Nat.toDigits 10 (n / 10) with
        | nil => exact absurd hDigits Nat.toDigits_ne_nil
        | cons first rest =>
            rw [hDigits] at hRest
            exact hRest

/- There is no zero in front of other digits. -/
theorem toDigits_ne_zero_cons
    (n : Nat)
    (c : Char)
    (digits : List Char) :
    Nat.toDigits 10 n ≠ '0' :: c :: digits := by
  intro hDigits
  rcases Nat.eq_zero_or_pos n with hZero | hPos
  · rw [hZero, Nat.toDigits_zero] at hDigits
    cases hDigits
  · apply head?_toDigits_ne_zero hPos
    rw [hDigits]
    rfl

theorem whole_toDigits
    {n : Nat}
    (hBound : n < bound) :
    whole false (Nat.toDigits 10 n) = some (.natural n) := by
  have hValue : Nat.ofDigitChars 10 (Nat.toDigits 10 n) 0 = n :=
    Nat.ofDigitChars_toDigits (by decide) (by decide)
  have hAbsorb : absorb 0 (Nat.toDigits 10 n) = (n, 0) := by
    rw [absorb_eq (by rw [hValue]; exact hBound), hValue]
  unfold whole
  rw [hAbsorb]
  rfl

------------------------------------------------------------
-- Numbers
------------------------------------------------------------

/- The character can go on with a number. -/
def isInside (c : Char) : Bool :=
  c.isDigit || c == '.' || c == 'e' || c == 'E'

theorem spanDigits_append
    {digits rest : List Char}
    (hDigits : ∀ c ∈ digits, c.isDigit = true)
    (hRest : ∀ c ∈ rest.head?, isInside c = false) :
    spanDigits (digits ++ rest) = (digits, rest) := by
  have hStop :
      ∀ c ∈ rest.head?, c.isDigit = false := by
    intro c hHead
    have hInside := hRest c hHead
    simp only [isInside, Bool.or_eq_false_iff] at hInside
    exact hInside.1.1.1
  unfold spanDigits
  rw [List.takeWhile_append_of_pos hDigits,
    List.dropWhile_append_of_pos hDigits]
  cases rest with
  | nil => simp
  | cons c rest => simp [hStop c rfl]

theorem readFraction_eq
    {rest : List Char}
    (hRest : ∀ c ∈ rest.head?, isInside c = false) :
    readFraction rest = some ([], rest) := by
  cases rest with
  | nil => rfl
  | cons c rest =>
      have hPoint : c ≠ '.' := by
        intro hEq
        have hInside := hRest c rfl
        rw [hEq] at hInside
        cases hInside
      unfold readFraction
      split
      · rename_i hEq
        cases hEq
        exact absurd rfl hPoint
      · rfl

theorem readExponent_eq
    {rest : List Char}
    (hRest : ∀ c ∈ rest.head?, isInside c = false) :
    readExponent rest = some (none, rest) := by
  cases rest with
  | nil => rfl
  | cons c rest =>
      have hLetter : ¬(c = 'e' ∨ c = 'E') := by
        intro hEq
        have hInside := hRest c rfl
        rcases hEq with hEq | hEq <;>
          · rw [hEq] at hInside
            cases hInside
      exact if_neg hLetter

/- Digits without a needless zero are read as one number. -/
theorem readUnsigned_digits
    {digits rest : List Char}
    (hNe : digits ≠ [])
    (hZero : ∀ c others, digits ≠ '0' :: c :: others)
    (hDigits : ∀ c ∈ digits, c.isDigit = true)
    (hRest : ∀ c ∈ rest.head?, isInside c = false)
    (isNegative : Bool) :
    readUnsigned isNegative (digits ++ rest) =
      (whole isNegative digits).map
        fun number => (number, rest) := by
  unfold readUnsigned
  rw [spanDigits_append hDigits hRest]
  split
  · rename_i hEq
    exact absurd (congrArg Prod.fst hEq) hNe
  · rename_i hEq
    exact absurd (congrArg Prod.fst hEq) (hZero _ _)
  · rename_i hEq
    cases hEq
    simp only [readFraction_eq hRest, readExponent_eq hRest,
      List.isEmpty_nil, if_true]

/- A natural number is read as it is written. -/
theorem read_toDigits
    {n : Nat}
    {rest : List Char}
    (hBound : n < bound)
    (hRest : ∀ c ∈ rest.head?, isInside c = false) :
    read (Nat.toDigits 10 n ++ rest) =
      some (.natural n, rest) := by
  have hUnsigned :
      readUnsigned false (Nat.toDigits 10 n ++ rest) =
        some (.natural n, rest) := by
    rw [readUnsigned_digits Nat.toDigits_ne_nil
        (toDigits_ne_zero_cons n) (fun _ => isDigit_of_mem)
        hRest,
      whole_toDigits hBound, Option.map_some]
  unfold read
  split
  · rename_i after hMinus
    -- No digit is a minus sign.
    cases hDigits : Nat.toDigits 10 n with
    | nil => exact absurd hDigits Nat.toDigits_ne_nil
    | cons first others =>
        have hFirst : first.isDigit = true :=
          isDigit_of_mem (hDigits ▸ List.mem_cons_self)
        rw [hDigits] at hMinus
        cases hMinus
        cases hFirst
  · exact hUnsigned

end MarkupLowering.Json.Number
