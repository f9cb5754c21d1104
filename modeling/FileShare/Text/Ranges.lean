/-! # Sets of characters given by ranges

A table lists the first and the last code point of each range, in ascending order.
-/
namespace FileShare.Text

/-- Ascending order lets the search stop at the first range that begins above the character. -/
def inRanges (n : Nat) : List (Nat × Nat) → Bool
  | [] => false
  | (first, last) :: rest => if n < first then false else n ≤ last || inRanges n rest

end FileShare.Text
