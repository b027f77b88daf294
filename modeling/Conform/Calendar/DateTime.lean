import Conform.Calendar.Date

/-!
# Wall clock times

A time of day may be a leap second: it is kept as second 59 with a fraction of one second or more,
and printed as second 60. `DateTime.parse?` reads a time with an offset (which is dropped), then
four looser layouts, then a bare date.
-/

namespace Conform

/-- A time of day. -/
structure Time where
  hour : Nat
  minute : Nat
  second : Nat
  /-- The fraction in billionths; from `1000000000` on it is a leap second. -/
  nano : Nat
  inDay : hour < 24 ∧ minute < 60 ∧ second < 60
  inSecond : nano < 1000000000 ∨ (second = 59 ∧ nano < 2000000000)
deriving DecidableEq, Repr

/-- A date and a time of day. -/
structure DateTime where
  date : Date
  time : Time
deriving DecidableEq, Repr

namespace Time

/-- The time of the numbers on a clock. Second 60 is the leap second. -/
def of? (h m s n : Nat) : Option Time :=
  let second := if s = 60 then 59 else s
  let nano := if s = 60 then n + 1000000000 else n
  if hd : h < 24 ∧ m < 60 ∧ second < 60 then
    if hs : nano < 1000000000 ∨ (second = 59 ∧ nano < 2000000000) then
      some ⟨h, m, second, nano, hd, hs⟩
    else none
  else none

/-- Midnight. -/
def midnight : Time := ⟨0, 0, 0, 0, by decide, by decide⟩

/-- A fraction of a second in billionths: nothing, or the fewest of 3, 6 and 9 digits that are
exact. -/
def fractionText (n : Nat) : String :=
  if n = 0 then ""
  else if n % 1000000 = 0 then "." ++ Date.pad 3 (n / 1000000)
  else if n % 1000 = 0 then "." ++ Date.pad 6 (n / 1000)
  else "." ++ Date.pad 9 n

/-- The text of a time of day. -/
def text (t : Time) : String :=
  Date.pad 2 t.hour ++ ":" ++ Date.pad 2 t.minute ++ ":" ++ Date.pad 2 (t.second + t.nano / 1000000000) ++
    fractionText (t.nano % 1000000000)

/-- The order of times. -/
def compare (a b : Time) : Ordering :=
  (Ord.compare a.hour b.hour).then
    ((Ord.compare a.minute b.minute).then
      ((Ord.compare a.second b.second).then (Ord.compare a.nano b.nano)))

end Time

namespace DateTime

/-- The text of a date and time. -/
def text (d : DateTime) : String := d.date.text ++ "T" ++ d.time.text

/-- The order of dates and times. -/
def compare (a b : DateTime) : Ordering := (a.date.compare b.date).then (a.time.compare b.time)

/-- A date and time from the numbers read. -/
def of? (y : Int) (mo d h mi s n : Nat) : Option DateTime := do
  let date ← Date.of? y mo d
  let time ← Time.of? h mi s n
  return ⟨date, time⟩

/-- The billionths that the digits of a fraction write; digits after the ninth are dropped. -/
def nanos (ds : List Char) : Nat :=
  let kept := ds.take 9
  Text.natOfDigits kept * Nat.pow 10 (9 - kept.length)

/-- A fraction, if a point stands in front; the point needs a digit after it. -/
def fraction? : List Char → Option (Nat × List Char)
  | '.' :: r =>
    let (ds, r) := Text.spanDigits r
    if ds.isEmpty then none else some (nanos ds, r)
  | r => some (0, r)

/-- The signs of an offset. -/
def isSign (c : Char) : Bool := c == '+' || c == '-' || c == '\u2212'

/-- An offset of less than a day, and nothing after it. -/
def isOffset (cs : List Char) : Bool :=
  match cs with
  | ['Z'] => true
  | ['z'] => true
  | c :: r => isSign c && (match (do
      let (h, r) ← Date.digits? 2 r
      let r ← Date.char? ':' r
      let (m, r) ← Date.digits? 2 r
      return decide (h < 24 ∧ m < 60 ∧ r = [])) with
    | some b => b
    | none => false)
  | [] => false

/-- A time with an offset: every number at full width. The offset is dropped. -/
def zoned? (cs : List Char) : Option DateTime := do
  let (y, mo, d, cs) ← Date.front? cs
  let cs ← match cs with
    | c :: r => if c = 'T' ∨ c = 't' ∨ c = ' ' then some r else none
    | [] => none
  let (h, cs) ← Date.digits? 2 cs
  let cs ← Date.char? ':' cs
  let (mi, cs) ← Date.digits? 2 cs
  let cs ← Date.char? ':' cs
  let (s, cs) ← Date.digits? 2 cs
  let (n, cs) ← fraction? cs
  if isOffset cs then of? y mo d h mi s n else none

/-- What stands between the date and the time of day. -/
inductive Gap where
  | letter
  | blank

/-- Drops the gap. -/
def Gap.drop? : Gap → List Char → Option (List Char)
  | .letter, cs => Date.char? 'T' cs
  | .blank, cs => some (Text.dropBlank cs)

/-- A time without an offset, with or without seconds; numbers need no zeros in front. -/
def loose? (gap : Gap) (seconds : Bool) (cs : List Char) : Option DateTime := do
  let (y, mo, d, cs) ← Date.looseFront? cs
  let cs ← gap.drop? cs
  let (h, cs) ← Date.number? 2 cs
  let cs ← Date.char? ':' cs
  let (mi, cs) ← Date.number? 2 cs
  if seconds then
    let cs ← Date.char? ':' cs
    let (s, cs) ← Date.number? 2 cs
    let (n, cs) ← fraction? cs
    if cs.isEmpty then of? y mo d h mi s n else none
  else if cs.isEmpty then of? y mo d h mi 0 0 else none

/-- Reads a date and time. -/
def parse? (s : String) : Option DateTime :=
  let cs := s.toList
  zoned? cs
    <|> loose? .letter true cs
    <|> loose? .blank true cs
    <|> loose? .letter false cs
    <|> loose? .blank false cs
    <|> (Date.parse? s).map (⟨·, Time.midnight⟩)

end DateTime
end Conform
