/-!
# Sets of characters given by ranges

A property of characters is a list of closed ranges of code points.
-/

namespace Conform.Text

/-- Closed ranges of code points. -/
abbrev Ranges := List (Nat × Nat)

/-- Does `c` lie in one of the ranges? -/
def Ranges.has (t : Ranges) (c : Char) : Bool :=
  t.any fun r => r.1 ≤ c.toNat && c.toNat ≤ r.2

@[simp] theorem Ranges.has_nil (c : Char) : Ranges.has [] c = false := rfl

theorem Ranges.has_iff (t : Ranges) (c : Char) :
    t.has c = true ↔ ∃ r ∈ t, r.1 ≤ c.toNat ∧ c.toNat ≤ r.2 := by
  simp [Ranges.has]

end Conform.Text
