import Conform.Decimal.Layout
import Conform.Decimal.Reading

/-!
# Durations

ISO 8601 durations, kept component by component: a month is no fixed number of days.
-/

namespace Conform

/-- A duration. -/
structure Duration where
  years : UInt32
  months : UInt32
  weeks : UInt32
  days : UInt32
  hours : UInt32
  minutes : UInt32
  seconds : Float

namespace Duration

/-- The empty duration. -/
def zero : Duration := ⟨0, 0, 0, 0, 0, 0, 0⟩

/-- Equal components. -/
def same (a b : Duration) : Bool :=
  a.years == b.years && a.months == b.months && a.weeks == b.weeks && a.days == b.days &&
    a.hours == b.hours && a.minutes == b.minutes && a.seconds == b.seconds

/-- Seconds never have an exponent, and whole seconds no fraction. -/
def secondsLayout : Layout := ⟨fun _ => true, false, false⟩

/-- A component, left out when it is zero. -/
def partText (n : UInt32) (unit : String) : String := if 0 < n then toString n.toNat ++ unit else ""

/-- The components of the clock after their mark; nothing when all are zero. -/
def clockText (d : Duration) : String :=
  if 0 < d.hours ∨ 0 < d.minutes ∨ 0 < d.seconds then
    "T" ++ partText d.hours "H" ++ partText d.minutes "M" ++
      (if 0 < d.seconds then secondsLayout.text d.seconds ++ "S" else "")
  else ""

/-- The text of a duration. The empty duration is `PT0S`. -/
def text (d : Duration) : String :=
  "P" ++ partText d.years "Y" ++ partText d.months "M" ++ partText d.weeks "W" ++ partText d.days "D" ++
    clockText d ++ (if d.same zero then "T0S" else "")

/-- What is written for the components of a duration, those that are there. -/
structure Captures where
  years : Option (List Char)
  months : Option (List Char)
  weeks : Option (List Char)
  days : Option (List Char)
  hours : Option (List Char)
  minutes : Option (List Char)
  seconds : Option (List Char)

/-- Digits, of any script, in front of the letter `unit`, if both are there, and the rest. -/
def group? (unit : Char) (cs : List Char) : Option (List Char) × List Char :=
  let (ds, r) := Text.spanDecimals cs
  match r with
  | u :: r' => if u = unit ∧ !ds.isEmpty then (some ds, r') else (none, cs)
  | [] => (none, cs)

/-- A point with digits behind it, if both are there, and the rest. -/
def fractionGroup (cs : List Char) : List Char × List Char :=
  match cs with
  | '.' :: r =>
    let (ds, r') := Text.spanDecimals r
    if ds.isEmpty then ([], cs) else ('.' :: ds, r')
  | _ => ([], cs)

/-- The seconds in front of their letter, with or without a fraction, and the rest. -/
def secondsGroup? (cs : List Char) : Option (List Char) × List Char :=
  let (whole, r) := Text.spanDecimals cs
  let (fraction, r) := fractionGroup r
  match r with
  | 'S' :: r' => if whole.isEmpty then (none, cs) else (some (whole ++ fraction), r')
  | _ => (none, cs)

/-- The components of the clock behind their mark, up to the end. -/
def clockGroups? (cs : List Char) :
    Option (Option (List Char) × Option (List Char) × Option (List Char)) :=
  match cs with
  | [] => some (none, none, none)
  | 'T' :: cs =>
    let (h, cs) := group? 'H' cs
    let (m, cs) := group? 'M' cs
    let (s, cs) := secondsGroup? cs
    if cs.isEmpty then some (h, m, s) else none
  | _ => none

/-- The components in order, each with its letter, up to the end. All of them may be absent. -/
def captures? (cs : List Char) : Option Captures :=
  match cs with
  | 'P' :: cs =>
    let (y, cs) := group? 'Y' cs
    let (mo, cs) := group? 'M' cs
    let (w, cs) := group? 'W' cs
    let (d, cs) := group? 'D' cs
    (clockGroups? cs).map fun (h, mi, s) => ⟨y, mo, w, d, h, mi, s⟩
  | _ => none

/-- The number of a component: ASCII digits, and it has to fit. An absent one is zero. -/
def component? : Option (List Char) → Option UInt32
  | none => some 0
  | some ds =>
    if ds.isEmpty || !ds.all Char.isDigit then none
    else if Text.natOfDigits ds < 0x100000000 then some (UInt32.ofNat (Text.natOfDigits ds))
    else none

/-- The number of the seconds, which have no sign. Absent seconds are zero. -/
def seconds? : Option (List Char) → Option Float
  | none => some 0
  | some cs => (Numeral.unsigned? false cs).map Numeral.toFloat

/-- Reads a duration. The texts `P` and `P1DT` have the right shape, but nothing behind the `P` or
the `T`. -/
def parse? (s : String) : Option Duration :=
  if s.utf8ByteSize < 3 ∨ s.toList.getLast? = some 'T' then none
  else do
    let c ← captures? s.toList
    let y ← component? c.years
    let mo ← component? c.months
    let w ← component? c.weeks
    let d ← component? c.days
    let h ← component? c.hours
    let mi ← component? c.minutes
    let sec ← seconds? c.seconds
    return ⟨y, mo, w, d, h, mi, sec⟩

end Duration
end Conform
