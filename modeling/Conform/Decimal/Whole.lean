/-!
# Whole numbers of 64 bits
-/

namespace Conform

/-- The whole number of 64 bits with a sign that is equal to `i`, when there is one. -/
def whole? (i : Int) : Option Int64 :=
  if -0x8000000000000000 ≤ i ∧ i < 0x8000000000000000 then some (Int64.ofInt i) else none

theorem whole?_eq_some_iff (i : Int) (n : Int64) : whole? i = some n ↔ n.toInt = i := by
  unfold whole?
  split
  case isTrue h =>
    constructor
    · intro e
      obtain rfl := Option.some.inj e
      exact Int64.toInt_ofInt_of_le (by simpa using h.1) (by simpa using h.2)
    · rintro rfl
      simp
  case isFalse h =>
    constructor
    · intro e
      cases e
    · rintro rfl
      exact absurd ⟨by simpa using n.le_toInt, by simpa using n.toInt_lt⟩ h

end Conform
