/-! Sets of characters given by a list of code point ranges. -/

namespace DomainModel.Text

/-- Whether `c` lies in one of the ranges, each given by its first and its last code point. -/
def inRanges (ranges : List (Nat × Nat)) (c : Char) : Bool :=
  ranges.any fun (first, last) => first ≤ c.toNat && c.toNat ≤ last

end DomainModel.Text
