/-! Sets of code points given by sorted ranges. -/

namespace TimePanel.Text

-- Ascending ranges of code points, both ends included.
abbrev Ranges := List (Nat × Nat)

-- The table ascends, so the search stops at the first range that ends at or after the code.
def Ranges.has : Ranges → Nat → Bool
  | [], _ => false
  | (first, last) :: rest, code =>
    if last < code then Ranges.has rest code else first ≤ code

end TimePanel.Text
