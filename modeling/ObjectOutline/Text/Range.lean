/-! Sets of characters given by ranges of code points, first and last included. -/
namespace ObjectOutline.Text

/-- The code point of `c` lies in one of the ranges. -/
def inRanges (ranges : Array (Nat × Nat)) (c : Char) : Bool :=
  ranges.any fun (first, last) => first ≤ c.toNat && c.toNat ≤ last

end ObjectOutline.Text
