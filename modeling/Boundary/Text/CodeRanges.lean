/-!
Sets of code points as ascending lists of inclusive ranges.
-/

namespace Boundary.Text

abbrev CodeRanges := List (Nat × Nat)

namespace CodeRanges

def has (ranges : CodeRanges) (code : Nat) : Bool :=
  ranges.any fun range => decide (range.1 ≤ code) && decide (code ≤ range.2)

theorem has_iff (ranges : CodeRanges) (code : Nat) :
    ranges.has code = true ↔ ∃ range ∈ ranges, range.1 ≤ code ∧ code ≤ range.2 := by
  simp [has]

end CodeRanges

end Boundary.Text
