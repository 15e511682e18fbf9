/-! Classes of characters written as lists of code point ranges. -/

namespace DependencyLinks.Text

/-- The first and the last code point of a run. -/
abbrev Range := Nat × Nat

def inRanges (ranges : List Range) (c : Char) : Bool :=
  ranges.any fun (first, last) => first ≤ c.toNat && c.toNat ≤ last

theorem inRanges_iff (ranges : List Range) (c : Char) :
    inRanges ranges c = true ↔ ∃ range ∈ ranges, range.1 ≤ c.toNat ∧ c.toNat ≤ range.2 := by
  simp [inRanges]

end DependencyLinks.Text
