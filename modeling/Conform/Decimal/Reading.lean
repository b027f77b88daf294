import Conform.Text.Digit

/-!
# Reading decimal notation

A numeral is a run of digits before the point, one after it, and an exponent. Its binary value is
the nearest one, a half going to the even neighbour; beyond the range it is infinite.
-/

namespace Conform

/-- A decimal numeral, split into its parts. -/
structure Numeral where
  negative : Bool
  whole : List Char
  fraction : List Char
  exponent : Int

namespace Numeral

/-- The binary number nearest to the numeral. -/
def toFloat (n : Numeral) : Float :=
  let digits := Text.natOfDigits (n.whole ++ n.fraction)
  let e := n.exponent - n.fraction.length
  let x := Float.ofScientific digits (e < 0) e.natAbs
  if n.negative then -x else x

/-- Splits an optional sign off; `true` for a minus. -/
def sign? : List Char → Bool × List Char
  | '-' :: r => (true, r)
  | '+' :: r => (false, r)
  | r => (false, r)

/-- An exponent mark with its digits, and what follows; `none` when the mark stands without digits.
No mark is the exponent zero. -/
def exponent? (cs : List Char) : Option (Int × List Char) :=
  match cs with
  | c :: r =>
    if c = 'e' ∨ c = 'E' then
      let (neg, r) := sign? r
      let (ds, r) := Text.spanDigits r
      if ds.isEmpty then none
      else
        let e : Int := Text.natOfDigits ds
        some (if neg then -e else e, r)
    else some (0, cs)
  | [] => some (0, [])

/-- An unsigned numeral with at least one digit, before or after the point, that takes up all of
`cs`. -/
def unsigned? (negative : Bool) (cs : List Char) : Option Numeral :=
  let (whole, r) := Text.spanDigits cs
  let (fraction, r) := match r with
    | '.' :: r => Text.spanDigits r
    | r => ([], r)
  if whole.isEmpty && fraction.isEmpty then none
  else match exponent? r with
    | some (e, []) => some ⟨negative, whole, fraction, e⟩
    | _ => none

end Numeral
end Conform
