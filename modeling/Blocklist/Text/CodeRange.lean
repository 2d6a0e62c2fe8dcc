/-!
# Sets of code points

A set of code points is a list of ranges, ends included. Properties of Unicode are written this way,
one table to a property.
-/

namespace Blocklist

/-- Whether `n` lies in one of the ranges. -/
def inRanges (ranges : List (Nat × Nat)) (n : Nat) : Bool :=
  ranges.any fun (first, last) => first ≤ n && n ≤ last

end Blocklist
