import Conform.Decimal.Reading

/-!
# Decimal notation in two roundings

The digits of a numeral are gathered as long as they fit 64 bits, and the others only count for the
power of ten. The gathered number is rounded to a binary one first, and the product or quotient with
the power is rounded again, so that the result may be a neighbour of the nearest binary number.
-/

namespace Conform

/-- A whole number times a power of ten. -/
structure Scaled where
  significand : Nat
  exponent : Int

namespace Scaled

/-- The greatest significand. -/
def limit : Nat := 0xffffffffffffffff

/-- The significand with one more digit, if that fits. -/
def push? (m : Nat) (d : Char) : Option Nat :=
  if 10 * m + Text.digitVal d ≤ limit then some (10 * m + Text.digitVal d) else none

/-- Gathers digits before the point; from the first that does not fit on, each is a zero. -/
def addWhole (s : Scaled) : List Char → Scaled
  | [] => s
  | d :: r =>
    match push? s.significand d with
    | some m => addWhole ⟨m, s.exponent⟩ r
    | none => ⟨s.significand, s.exponent + (r.length + 1)⟩

/-- Gathers digits after the point, up to the first that does not fit. -/
def addFraction (s : Scaled) : List Char → Scaled
  | [] => s
  | d :: r =>
    match push? s.significand d with
    | some m => addFraction ⟨m, s.exponent - 1⟩ r
    | none => s

/-- A power of ten, as a binary number. -/
def power (e : Nat) : Float := Float.ofScientific 1 false e

/-- `x` times the power of ten with exponent `e`. Beyond the greatest power that is a binary number
there is no product, and a quotient is taken in steps. -/
def scale? (x : Float) (e : Int) : Option Float :=
  if 308 < e then if x == 0 then some x else none
  else if 0 ≤ e then
    let y := x * power e.toNat
    if y.isFinite then some y else none
  else if -308 ≤ e then some (x / power e.natAbs)
  else if x == 0 then some x
  else scale? (x / power 308) (e + 308)
termination_by (-e).toNat
decreasing_by omega

/-- The binary number, if it is in range. -/
def toFloat? (s : Scaled) : Option Float := scale? (UInt64.ofNat s.significand).toFloat s.exponent

end Scaled

/-- The numeral, as far as its digits fit. -/
def Numeral.scaled (n : Numeral) : Scaled :=
  ((Scaled.mk 0 n.exponent).addWhole n.whole).addFraction n.fraction

/-- The binary number of a numeral in two roundings, if it is in range. -/
def Numeral.toScaledFloat? (n : Numeral) : Option Float :=
  n.scaled.toFloat?.map fun x => if n.negative then -x else x

end Conform
