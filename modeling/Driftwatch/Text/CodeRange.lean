/-
Sets of characters given by ranges of code points.

* `CodeRanges`: a list of ranges, both ends included.
* `CodeRanges.holds`: membership of a character.
-/

namespace Driftwatch.Text

/-- A set of code points as a list of ranges, both ends included. -/
abbrev CodeRanges := List (Nat × Nat)

/-- The character lies in one of the ranges. -/
def CodeRanges.holds (rs : CodeRanges) (c : Char) : Bool :=
  rs.any fun r => r.1 ≤ c.toNat && c.toNat ≤ r.2

end Driftwatch.Text
