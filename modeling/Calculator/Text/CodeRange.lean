/-!
# Sets of characters given by ranges of code points

A set of characters is written as a list of inclusive ranges of code points; the tables of this
library are such lists.  `inRanges_iff` says what membership means.
-/

namespace Calculator.Text

/-- Whether the code point of `c` lies in one of the inclusive ranges. -/
def inRanges (ranges : List (Nat × Nat)) (c : Char) : Bool :=
  ranges.any fun range => range.1 ≤ c.toNat && c.toNat ≤ range.2

theorem inRanges_iff {ranges : List (Nat × Nat)} {c : Char} :
    inRanges ranges c = true ↔ ∃ range ∈ ranges, range.1 ≤ c.toNat ∧ c.toNat ≤ range.2 := by
  simp [inRanges]

end Calculator.Text
