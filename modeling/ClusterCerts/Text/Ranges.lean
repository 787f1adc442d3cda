/-!
# Ranges of code points

A character property is the list of its ranges, both ends included.
-/

namespace ClusterCerts

abbrev CodeRanges := List (Nat × Nat)

namespace CodeRanges

def contains (r : CodeRanges) (c : Char) : Bool := r.any fun p => p.1 ≤ c.toNat && c.toNat ≤ p.2

theorem contains_iff {r : CodeRanges} {c : Char} :
    r.contains c ↔ ∃ p ∈ r, p.1 ≤ c.toNat ∧ c.toNat ≤ p.2 := by
  simp [contains]

end CodeRanges
end ClusterCerts
