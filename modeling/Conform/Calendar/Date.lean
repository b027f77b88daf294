import Conform.Text.Blank
import Conform.Text.Digit

/-!
# Dates

Dates of the proleptic Gregorian calendar, year zero included. A layout for dates takes numbers without
zeros in front, white space and signs; `Date.parse?` asks for the shape `YYYY-MM-DD` first.
-/

namespace Conform

/-- A year with 366 days. -/
def leapYear (y : Int) : Bool := y % 4 == 0 && (y % 100 != 0 || y % 400 == 0)

/-- The number of days of a month; none for a number that is no month. -/
def daysIn (y : Int) (m : Nat) : Nat :=
  if m = 2 then if leapYear y then 29 else 28
  else if m = 4 ∨ m = 6 ∨ m = 9 ∨ m = 11 then 30
  else if 1 ≤ m ∧ m ≤ 12 then 31
  else 0

/-- A date. -/
structure Date where
  year : Int
  month : Nat
  day : Nat
  inYears : -262143 ≤ year ∧ year ≤ 262142
  inMonth : 1 ≤ day ∧ day ≤ daysIn year month
deriving DecidableEq, Repr

namespace Date

/-- The date of a year, month and day, if there is one. -/
def of? (y : Int) (m d : Nat) : Option Date :=
  if hy : -262143 ≤ y ∧ y ≤ 262142 then
    if hd : 1 ≤ d ∧ d ≤ daysIn y m then some ⟨y, m, d, hy, hd⟩ else none
  else none

/-- The text of `n` with zeros in front, at least `w` characters. -/
def pad (w n : Nat) : String :=
  let s := (Nat.toDigits 10 n)
  String.ofList (List.replicate (w - s.length) '0' ++ s)

/-- A year from 0 to 9999 has four digits; any other has a sign and at least four. -/
def yearText (y : Int) : String :=
  if 0 ≤ y ∧ y ≤ 9999 then pad 4 y.toNat
  else (if y < 0 then "-" else "+") ++ pad 4 y.natAbs

/-- The text of a date. -/
def text (d : Date) : String := yearText d.year ++ "-" ++ pad 2 d.month ++ "-" ++ pad 2 d.day

/-- The number that the first `n` characters write, all of them digits, and the rest. -/
def digits? (n : Nat) (cs : List Char) : Option (Nat × List Char) :=
  let ds := cs.take n
  if ds.length = n ∧ ds.all Char.isDigit then some (Text.natOfDigits ds, cs.drop n) else none

/-- Drops the character `c` in front. -/
def char? (c : Char) : List Char → Option (List Char)
  | [] => none
  | d :: r => if d = c then some r else none

/-- A date `YYYY-MM-DD` in front, and the rest. -/
def front? (cs : List Char) : Option (Int × Nat × Nat × List Char) := do
  let (y, cs) ← digits? 4 cs
  let cs ← char? '-' cs
  let (m, cs) ← digits? 2 cs
  let cs ← char? '-' cs
  let (d, cs) ← digits? 2 cs
  return ((y : Int), m, d, cs)

/-- A number of one to `w` digits after white space, and the rest. -/
def number? (w : Nat) (cs : List Char) : Option (Nat × List Char) :=
  let cs := Text.dropBlank cs
  let ds := (cs.takeWhile Char.isDigit).take w
  if ds.isEmpty then none else some (Text.natOfDigits ds, cs.drop ds.length)

/-- A number of any length that stands right in front, and the rest. -/
def longNumber? (cs : List Char) : Option (Nat × List Char) :=
  let (ds, r) := Text.spanDigits cs
  if ds.isEmpty then none else some (Text.natOfDigits ds, r)

/-- A year of up to four digits, or of any length after a sign. -/
def year? (cs : List Char) : Option (Int × List Char) :=
  match Text.dropBlank cs with
  | '-' :: r => (longNumber? r).map fun (n, r) => (-(n : Int), r)
  | '+' :: r => (longNumber? r).map fun (n, r) => ((n : Int), r)
  | r => (number? 4 r).map fun (n, r) => ((n : Int), r)

/-- A date in front whose numbers need no zeros in front of them, and the rest. -/
def looseFront? (cs : List Char) : Option (Int × Nat × Nat × List Char) := do
  let (y, cs) ← year? cs
  let cs ← char? '-' cs
  let (m, cs) ← number? 2 cs
  let cs ← char? '-' cs
  let (d, cs) ← number? 2 cs
  return (y, m, d, cs)

/-- Drops `n` decimal digits of any script. -/
def dropDecimals? (n : Nat) (cs : List Char) : Option (List Char) :=
  let ds := cs.take n
  if ds.length = n ∧ ds.all Text.isDecimal then some (cs.drop n) else none

/-- Drops four, two and two decimal digits of any script, with hyphens between them. -/
def dropShape? (cs : List Char) : Option (List Char) := do
  let cs ← dropDecimals? 4 cs
  let cs ← char? '-' cs
  let cs ← dropDecimals? 2 cs
  let cs ← char? '-' cs
  dropDecimals? 2 cs

/-- Reads a date whose numbers need no zeros in front of them. -/
def loose? (cs : List Char) : Option Date := do
  let (y, m, d, cs) ← looseFront? cs
  if cs.isEmpty then of? y m d else none

/-- Reads a date of the shape `YYYY-MM-DD`. -/
def parse? (s : String) : Option Date :=
  match dropShape? s.toList with
  | some [] => loose? s.toList
  | _ => none

/-- The order of dates. -/
def compare (a b : Date) : Ordering :=
  (Ord.compare a.year b.year).then ((Ord.compare a.month b.month).then (Ord.compare a.day b.day))

end Date
end Conform
