/-!
# Hexadecimal digits

The digits of base sixteen in either case, and the character with a given number.
-/

namespace Conform.Text

/-- The value of a hexadecimal digit. -/
def hexDigit? (c : Char) : Option Nat :=
  if c.isDigit then some (c.toNat - '0'.toNat)
  else if 'a' ≤ c ∧ c ≤ 'f' then some (c.toNat - 'a'.toNat + 10)
  else if 'A' ≤ c ∧ c ≤ 'F' then some (c.toNat - 'A'.toNat + 10)
  else none

/-- The character that hexadecimal digits stand for. -/
def hexChar? (ds : List Char) : Option Char := do
  if ds.isEmpty then none
  let vals ← ds.mapM hexDigit?
  let n := vals.foldl (fun n d => 16 * n + d) 0
  if n.isValidChar then some (Char.ofNat n) else none

end Conform.Text
