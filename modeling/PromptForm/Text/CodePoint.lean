/-! # Sets of code points

A set of characters is written as a list of inclusive ranges of code points, in ascending order.
-/

namespace PromptForm.Text

/-- Does one of the ranges hold the code point? -/
def inRanges (ranges : List (Nat × Nat)) (n : Nat) : Bool :=
  ranges.any fun range => range.1 ≤ n && n ≤ range.2

end PromptForm.Text
