import Conform.Kind
import Conform.Value.Json

/-!
# Coercion to a primitive kind

Numbers, truth values and temporal values may be written as texts. A whole number widens to a binary
one and a date with a time narrows to the date; nothing becomes a text, and null is only null.
-/

namespace Conform

/-- Reads a whole number: an optional minus and ASCII digits, within 64 bits. -/
def parseInt? (s : String) : Option Int64 :=
  let (neg, ds) := match s.toList with
    | '-' :: r => (true, r)
    | r => (false, r)
  if ds.isEmpty || !ds.all Char.isDigit then none
  else
    let n : Int := Text.natOfDigits ds
    whole? (if neg then -n else n)

/-- Reads a binary number in plain decimal notation; it has to be finite. -/
def parseFloat? (s : String) : Option Float :=
  let (neg, cs) := match s.toList with
    | '-' :: r => (true, r)
    | r => (false, r)
  match Numeral.unsigned? neg cs with
  | some n => if n.toFloat.isFinite then some n.toFloat else none
  | none => none

/-- Why a coercion failed. -/
inductive CoerceFault where
  /-- The value is of the wrong sort. -/
  | mismatch
  /-- The value is a text that does not read as the kind. -/
  | unreadable
deriving DecidableEq, Repr

/-- A failed coercion with its message. -/
structure CoerceError where
  fault : CoerceFault
  message : String
deriving DecidableEq, Repr

namespace Coerce

/-- How messages name a kind. -/
def target : Kind → String
  | .date => "Date (YYYY-MM-DD)"
  | .duration => "Duration (ISO 8601)"
  | k => k.name

/-- The failure for a value of the wrong sort. -/
def mismatch (k : Kind) (v : Value) : CoerceError :=
  ⟨.mismatch, "expected " ++ target k ++ ", got " ++ v.describe⟩

/-- The failure for a text that does not read as the kind. -/
def unreadable (k : Kind) (v : Value) : CoerceError :=
  ⟨.unreadable, "expected " ++ target k ++ ", got " ++
    (if k = .dateTime then "invalid datetime " else "") ++
    v.describe⟩

/-- The value that a text reads as, or the failure. -/
def reading {α : Type} (k : Kind) (s : String) (make : α → Value) : Option α → Except CoerceError Value
  | some a => .ok (make a)
  | none => .error (unreadable k (.str s))

end Coerce

/-- Coerces a value to a kind. -/
def coerce (k : Kind) (v : Value) : Except CoerceError Value :=
  match k, v with
  | .any, v => .ok v
  | .null, .null => .ok .null
  | .bool, .bool b => .ok (.bool b)
  | .bool, .str s =>
    if s = "true" then .ok (.bool true)
    else if s = "false" then .ok (.bool false)
    else .error (Coerce.unreadable .bool (.str s))
  | .int, .int n => .ok (.int n)
  | .int, .str s => Coerce.reading .int s .int (parseInt? s)
  | .float, .float x => .ok (.float x)
  | .float, .int n => .ok (.float (Value.widen n))
  | .float, .str s => Coerce.reading .float s .float (parseFloat? s)
  | .string, .str s => .ok (.str s)
  | .dateTime, .dateTime d => .ok (.dateTime d)
  | .dateTime, .str s => Coerce.reading .dateTime s .dateTime (DateTime.parse? s)
  | .date, .date d => .ok (.date d)
  | .date, .dateTime d => .ok (.date d.date)
  | .date, .str s => Coerce.reading .date s .date (Date.parse? s)
  | .duration, .duration d => .ok (.duration d)
  | .duration, .str s => Coerce.reading .duration s .duration (Duration.parse? s)
  | k, v => .error (Coerce.mismatch k v)

end Conform
