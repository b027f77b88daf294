/-!
# The shortest decimal of a binary number

A positive binary number is `m · 2 ^ q`. The reals that are rounded to it form an interval, which
holds its two ends when `m` is even. `shortest m q` is the decimal with the fewest digits in that
interval, and of those the nearest to the number; all arithmetic is on naturals.
-/

namespace Conform

/-- The decimal `digits · 10 ^ exponent`. -/
structure Decimal where
  digits : Nat
  exponent : Int
deriving DecidableEq, Repr

namespace Decimal

/-- The number of decimal digits of `n`. -/
def width (n : Nat) : Nat := (Nat.toDigits 10 n).length

/-- The power of ten at the first digit. -/
def lead (d : Decimal) : Int := d.exponent + width d.digits - 1

/-- Moves the zeros at the end of the digits into the exponent, at most `fuel` of them. -/
def strip : Nat → Decimal → Decimal
  | 0, d => d
  | fuel + 1, d =>
    if d.digits ≠ 0 ∧ d.digits % 10 = 0 then strip fuel ⟨d.digits / 10, d.exponent + 1⟩ else d

/-- A positive binary number with the interval of reals that are rounded to it, over one
denominator. -/
structure Target where
  low : Nat
  mid : Nat
  high : Nat
  denom : Nat
  closed : Bool

/-- The interval of `m · 2 ^ q`. Below a power of two the gap to the next number is half as wide,
the least exponent apart. -/
def Target.of (m : Nat) (q : Int) : Target :=
  let narrow : Bool := m == Nat.pow 2 52 && decide (-1074 < q)
  let up := Nat.pow 2 (q - 2).toNat
  let low := if narrow then 4 * m - 1 else 4 * m - 2
  ⟨low * up, 4 * m * up, (4 * m + 2) * up, Nat.pow 2 (2 - q).toNat, m % 2 == 0⟩

/-- The least `k` with the number below `10 ^ k`. -/
def Target.top (t : Target) : Int :=
  let j : Int := (width t.denom : Int) - width t.mid
  if t.denom * Nat.pow 10 (-j).toNat ≤ t.mid * Nat.pow 10 j.toNat then 1 - j else -j

/-- Is `c · 10 ^ g` rounded to the number? -/
def Target.holds (t : Target) (c : Nat) (g : Int) : Bool :=
  let x := c * Nat.pow 10 g.toNat * t.denom
  let s := Nat.pow 10 (-g).toNat
  if t.closed then t.low * s ≤ x && x ≤ t.high * s else t.low * s < x && x < t.high * s

/-- The multiple of `10 ^ g` that is rounded to the number, the nearer of two, and the even one of
two that are equally near. -/
def Target.pick (t : Target) (g : Int) : Option Decimal :=
  let unit := Nat.pow 10 g.toNat * t.denom
  let x := t.mid * Nat.pow 10 (-g).toNat
  let c := x / unit
  match t.holds c g, t.holds (c + 1) g with
  | true, true =>
    let r := 2 * (x % unit)
    if r < unit ∨ (r = unit ∧ c % 2 = 0) then some ⟨c, g⟩ else some ⟨c + 1, g⟩
  | true, false => some ⟨c, g⟩
  | false, true => some ⟨c + 1, g⟩
  | false, false => none

/-- The decimal with the fewest digits, from 1 to 17, that is rounded to `m · 2 ^ q`. -/
def shortest (m : Nat) (q : Int) : Decimal :=
  let t := Target.of m q
  let grids := (List.range 17).map fun (n : Nat) => t.top - (n + 1 : Nat)
  ((grids.findSome? t.pick).getD ⟨t.mid / t.denom, 0⟩).strip 17

example : shortest 1 (-1074) = ⟨5, -324⟩ := by decide +kernel
example : shortest (Nat.pow 2 52) 0 = ⟨4503599627370496, 0⟩ := by decide +kernel

end Decimal
end Conform
