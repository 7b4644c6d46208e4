/-!
# Ranges of code points

Properties of characters are kept as lists of ranges.
-/

namespace PromptStudio

/-- Whether a number lies in one of the ranges, ends included. -/
def inRanges (ranges : List (Nat × Nat)) (n : Nat) : Bool :=
  ranges.any fun r => r.1 ≤ n && n ≤ r.2

end PromptStudio
