/-! Sets of characters, as lists of ranges of code points. -/
namespace ObjectPath.Text

/-- Whether a code point lies in one of some ranges, each given by its first and last code point. -/
def inRanges (ranges : List (Nat × Nat)) (n : Nat) : Bool :=
  ranges.any fun r => r.1 ≤ n && n ≤ r.2

end ObjectPath.Text
