/-!
# Sets of characters given by ranges of code points

Properties of characters are tables of ranges. Membership is a search through the table.
-/

namespace DatasetSchema.Text

/-- Whether the code point of `c` lies in one of the ranges, both ends included. -/
def inRanges (ranges : List (Nat × Nat)) (c : Char) : Bool :=
  ranges.any fun range => range.1 ≤ c.toNat && c.toNat ≤ range.2

end DatasetSchema.Text
