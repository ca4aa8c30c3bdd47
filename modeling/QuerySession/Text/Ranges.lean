/-!
# Ranges of characters

Character properties are given as lists of closed ranges of code points.

## Main Definitions

* `inRanges` — membership in such a list
-/

namespace QuerySession.Text

/-- Whether `code` lies in one of the closed ranges. -/
def inRanges (ranges : List (Nat × Nat)) (code : Nat) : Bool :=
  ranges.any fun r => r.1 ≤ code && code ≤ r.2

end QuerySession.Text
