/-! Sets of characters written as ascending ranges of code points, both ends included. -/

namespace PocketDesk.Text

def inRanges (ranges : List (Nat × Nat)) (c : Char) : Bool :=
  ranges.any fun r => r.1 ≤ c.toNat && c.toNat ≤ r.2

end PocketDesk.Text
