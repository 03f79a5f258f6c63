/-!
# Ranges of Code Points

A class of characters written as ascending ranges of code points, both ends
included.

## Main definitions

* `inRanges`: A code point lies in one of the ranges.
-/

namespace EntryCoverage

namespace Text

/-- Whether a code point lies in one of the ranges. The ranges ascend, so the
    search stops at the first one that ends at or above the code point. -/
def inRanges : List (Nat × Nat) → Nat → Bool
  | [], _ => false
  | (first, last) :: rest, n => if n ≤ last then first ≤ n else inRanges rest n

theorem inRanges_singleton (a b n : Nat) : inRanges [(a, b)] n = (decide (a ≤ n) && decide (n ≤ b)) := by
  by_cases h : n ≤ b <;> simp [inRanges, h]

end Text

end EntryCoverage
