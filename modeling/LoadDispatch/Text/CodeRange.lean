/-!
# Ranges of code points

Tables of characters list ranges of code points, from the first to the last.
-/

namespace LoadDispatch.Text

/-- Whether a code point is in one of some ranges. -/
def inRanges (ranges : List (Nat × Nat)) (code : Nat) : Bool :=
  ranges.any fun (first, last) => first ≤ code && code ≤ last

end LoadDispatch.Text
