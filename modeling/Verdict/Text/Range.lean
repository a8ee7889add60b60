/-!
Classes of characters given by ranges of their code points.
-/

namespace Verdict.Text

def inRanges (ranges : List (Nat × Nat)) (char : Char) : Bool :=
  ranges.any fun range => range.1 ≤ char.toNat && char.toNat ≤ range.2

theorem inRanges_iff {ranges : List (Nat × Nat)} {char : Char} :
    inRanges ranges char = true ↔
      ∃ range ∈ ranges, range.1 ≤ char.toNat ∧ char.toNat ≤ range.2 := by
  simp [inRanges]

end Verdict.Text
