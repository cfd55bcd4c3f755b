/-!
# Ranges of code points

A character class is a list of closed intervals of code points. Main definition: `inRanges`.
-/

namespace GridCalc.Text

/-- A character class as closed intervals of code points. -/
abbrev CodeRanges := List (Nat × Nat)

/-- The character lies in one of the intervals. -/
def inRanges (ranges : CodeRanges) (c : Char) : Bool :=
  ranges.any fun (first, last) => first ≤ c.toNat && c.toNat ≤ last

theorem inRanges_iff {ranges : CodeRanges} {c : Char} :
    inRanges ranges c = true ↔ ∃ r ∈ ranges, r.1 ≤ c.toNat ∧ c.toNat ≤ r.2 := by
  simp [inRanges]

end GridCalc.Text
