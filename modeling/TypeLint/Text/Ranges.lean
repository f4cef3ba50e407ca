/-!
# Sorted ranges of code points

The properties of code points beyond the ASCII block are tables of ranges, in ascending order.
-/

namespace TypeLint.Text

/-- Whether `n` lies in one of the ranges, which are sorted and include both ends. -/
def inRanges (n : Nat) : List (Nat × Nat) → Bool
  | [] => false
  | (lo, hi) :: rest => if n < lo then false else n ≤ hi || inRanges n rest

end TypeLint.Text
