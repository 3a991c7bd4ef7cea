/-! # Sets of characters

A set of characters is written as the closed ranges of code points that it
consists of. The order of the ranges does not matter. -/

namespace Reckoner.Text

structure CharSet where
  ranges : List (Nat × Nat)

namespace CharSet

def contains (s : CharSet) (c : Char) : Bool :=
  s.ranges.any fun r => r.1 ≤ c.toNat && c.toNat ≤ r.2

theorem contains_iff {s : CharSet} {c : Char} :
    s.contains c = true ↔ ∃ r ∈ s.ranges, r.1 ≤ c.toNat ∧ c.toNat ≤ r.2 := by
  simp [contains]

/-- The code points of the set, for the sets that are small enough to list. -/
def codePoints (s : CharSet) : List Nat :=
  s.ranges.flatMap fun r => List.range' r.1 (r.2 + 1 - r.1)

theorem mem_codePoints_iff {s : CharSet} {c : Char} :
    c.toNat ∈ s.codePoints ↔ s.contains c = true := by
  simp only [codePoints, List.mem_flatMap, List.mem_range'_1, contains_iff]
  constructor
  · rintro ⟨r, hr, h⟩
    exact ⟨r, hr, by omega, by omega⟩
  · rintro ⟨r, hr, h⟩
    exact ⟨r, hr, by omega, by omega⟩

end CharSet

end Reckoner.Text
