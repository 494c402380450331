/-!
# Ranges of code points

A property of characters is held as the list of the ranges of code points that have it, first
and last included, in increasing order. Membership is decided by one walk along the list that
gives up as soon as the ranges lie beyond the code point.
-/

namespace ResourceSearch.Text

/-- Whether a code point lies in one of the ranges, which are in increasing order. -/
def inRanges : List (Nat × Nat) → Nat → Bool
  | [], _ => false
  | (first, last) :: rest, n =>
    if n < first then false else if n ≤ last then true else inRanges rest n

end ResourceSearch.Text
