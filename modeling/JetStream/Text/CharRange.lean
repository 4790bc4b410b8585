/-!
# Sets of characters given by ranges

A property of characters that a standard fixes by a table is written here as a list of inclusive
ranges of code points, in ascending order.  The tables follow Unicode 17; where one does not, its
module says so.
-/

namespace JetStream.Text

/-- Inclusive ranges of code points. -/
abbrev CharRanges := List (Nat × Nat)

/-- The character lies in one of the ranges. -/
def CharRanges.contains (ranges : CharRanges) (c : Char) : Bool :=
  ranges.any fun (low, high) => low ≤ c.toNat && c.toNat ≤ high

end JetStream.Text
