/-
  This file defines classes of characters given by ranges of
  character codes.

  Key definitions include:
    * `CodeRanges`
    * `CodeRanges.covers`
-/

namespace MarkupLowering.Text

/- Closed ranges of character codes, in ascending order. -/
abbrev CodeRanges :=
  List (Nat × Nat)

namespace CodeRanges

/- The code of the character lies in one of the ranges. -/
def covers
    (ranges : CodeRanges)
    (c : Char) : Bool :=
  ranges.any fun range => range.1 ≤ c.toNat && c.toNat ≤ range.2

end CodeRanges

end MarkupLowering.Text
