/-!
# Classes of characters by ranges

* `CharRanges`, `CharRanges.contains`: a class given by its ranges of code points.
-/

namespace Vigil.Text

/-- A class of characters as ranges of code points, both ends included. -/
abbrev CharRanges := List (Nat × Nat)

/-- Whether a character lies in one of the ranges. -/
def CharRanges.contains (ranges : CharRanges) (c : Char) : Bool :=
  ranges.any fun r => r.1 ≤ c.toNat && c.toNat ≤ r.2

end Vigil.Text
