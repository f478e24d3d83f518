/-!
# Sets of code points

A set of characters is given by the sorted list of the ranges of code points that it holds.
-/

namespace RuleChain.Text

/-- Whether the code point of `c` lies in one of the ranges, whose ends belong to them. -/
def inRanges (ranges : List (Nat × Nat)) (c : Char) : Bool :=
  ranges.any fun range => range.1 ≤ c.toNat && c.toNat ≤ range.2

end RuleChain.Text
