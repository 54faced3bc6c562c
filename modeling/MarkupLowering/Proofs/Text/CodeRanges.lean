import MarkupLowering.Text.CodeRanges

/-
  This file shows how a fact about a class of characters is
  checked code by code, and how classes of characters are
  compared: as numbers with one bit for each code.

  Key definitions include:
    * `CodeRanges.codes`
    * `codeSet`

  Key theorems include:
    * `CodeRanges.mem_codes`
    * `CodeRanges.all_of_covers`
    * `testBit_codeSet`
    * `mem_iff_of_codeSet_eq`
-/

namespace MarkupLowering.Text

------------------------------------------------------------
-- Codes in Ranges
------------------------------------------------------------

namespace CodeRanges

/- The codes in the ranges, one by one. -/
def codes (ranges : CodeRanges) : List Nat :=
  ranges.flatMap fun range =>
    List.range' range.1 (range.2 + 1 - range.1)

theorem mem_codes
    {ranges : CodeRanges}
    {c : Char} :
    c.toNat ∈ ranges.codes ↔ ranges.covers c = true := by
  unfold codes covers
  rw [List.mem_flatMap, List.any_eq_true]
  apply exists_congr
  intro range
  rw [List.mem_range'_1, Bool.and_eq_true, decide_eq_true_eq,
    decide_eq_true_eq]
  apply and_congr_right
  intro _
  omega

/- What holds of each code in the ranges holds of a character. -/
theorem all_of_covers
    {ranges : CodeRanges}
    (p : Char → Bool)
    (hAll :
      ranges.codes.all (fun code => p (Char.ofNat code)) = true)
    {c : Char}
    (hCovers : ranges.covers c = true) :
    p c = true := by
  have hCode :=
    List.all_eq_true.mp hAll c.toNat (mem_codes.mpr hCovers)
  rw [Char.ofNat_toNat] at hCode
  exact hCode

/- Ranges that begin above a code do not cover it. -/
theorem not_covers_of_lt
    {ranges : CodeRanges}
    {bound : Nat}
    (hAll : ranges.all (fun range => bound ≤ range.1) = true)
    {c : Char}
    (hCode : c.toNat < bound) :
    ranges.covers c = false := by
  rw [Bool.eq_false_iff]
  intro hCovers
  rcases List.any_eq_true.mp hCovers with ⟨range, hRange, hInside⟩
  have hFirst := List.all_eq_true.mp hAll range hRange
  simp only [Bool.and_eq_true, decide_eq_true_eq] at hInside hFirst
  omega

end CodeRanges

------------------------------------------------------------
-- Sets of Codes
------------------------------------------------------------

/-
  The codes as one number, in which a bit is set for each of
  them.  Sets with thousands of codes are compared at once.
-/
def codeSet (codes : List Nat) : Nat :=
  codes.foldr (fun code set => 1 <<< code ||| set) 0

theorem testBit_codeSet
    (codes : List Nat)
    (n : Nat) :
    (codeSet codes).testBit n = decide (n ∈ codes) := by
  unfold codeSet
  induction codes with
  | nil => simp
  | cons code rest ih =>
      rw [List.foldr_cons, Nat.testBit_or, ih, Nat.one_shiftLeft,
        Nat.testBit_two_pow]
      simp [eq_comm]

/- Equal sets have the same codes. -/
theorem mem_iff_of_codeSet_eq
    {first second : List Nat}
    (hSets : codeSet first = codeSet second)
    (code : Nat) :
    code ∈ first ↔ code ∈ second := by
  have hBit := congrArg (fun set => set.testBit code) hSets
  simpa [testBit_codeSet] using hBit

/- Disjoint sets have no code in common. -/
theorem not_mem_of_codeSet_and
    {first second : List Nat}
    (hSets : codeSet first &&& codeSet second = 0)
    {code : Nat}
    (hFirst : code ∈ first) :
    code ∉ second := by
  have hBit := congrArg (fun set => set.testBit code) hSets
  simpa [testBit_codeSet, hFirst] using hBit

end MarkupLowering.Text
