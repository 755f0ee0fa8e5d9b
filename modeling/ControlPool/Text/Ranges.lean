/-!
# Ranges of code points

A character property is held as the list of the inclusive ranges that have it.
-/

namespace ControlPool.Text

/-- Whether a code point lies in one of the inclusive ranges. -/
def inRanges (ranges : List (Nat × Nat)) (point : Nat) : Bool :=
  ranges.any fun range => range.1 ≤ point && point ≤ range.2

end ControlPool.Text
