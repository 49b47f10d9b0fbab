namespace UdpBench

/-- A set of characters, given by inclusive ranges of code points. -/
structure CharSet where
  ranges : List (Nat × Nat)

namespace CharSet

def contains (s : CharSet) (c : Char) : Bool :=
  s.ranges.any fun (lo, hi) => lo ≤ c.toNat && c.toNat ≤ hi

theorem contains_iff {s : CharSet} {c : Char} :
    s.contains c = true ↔ ∃ lo hi, (lo, hi) ∈ s.ranges ∧ lo ≤ c.toNat ∧ c.toNat ≤ hi := by
  simp [contains]

end CharSet

end UdpBench
