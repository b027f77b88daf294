import Conform.Filter.Outputs

/-!
# Arithmetic on data

Whole numbers stay whole as long as the result has 64 bits, and division always gives a binary
number. Texts, arrays and objects can be added; an object times an object merges them at every
depth.
-/

namespace Conform.Filter

/-- The arithmetic operators. -/
inductive Math where
  | add | sub | mul | div | rem
deriving DecidableEq

namespace Datum

/-- The whole result if it has 64 bits, else the binary one. -/
def wholeOr (i : Int) (x : Float) : Datum :=
  match whole? i with
  | some n => .int n
  | none => .float x

/-- The binary number of a whole one. -/
def widen (n : Int64) : Float := Float.ofInt n.toInt

/-- The remainder of binary numbers, with the sign of the first. -/
def floatRem (x y : Float) : Float :=
  if x.isNaN || y.isNaN || x.isInf || y == 0 then 0.0 / 0.0
  else if y.isInf then x
  else
    let a := Binary.ofFloat x
    let b := Binary.ofFloat y
    let e := min a.exponent b.exponent
    let m := a.significand * Nat.pow 2 (a.exponent - e).toNat
    let n := b.significand * Nat.pow 2 (b.exponent - e).toNat
    let r := Float.scaleB (Float.ofNat (m % n)) e
    if a.negative then -r else r

/-- The pieces of a text between the places where `sep` stands. -/
def split (s sep : String) : List Datum :=
  if s.isEmpty then []
  else if sep.isEmpty then s.toList.map fun c => .str c.toString
  else (s.splitOn sep).map .str

mutual

/-- Members of `r` replace those of `l`; two objects under one name are merged. -/
def merge : List (String × Datum) → List (String × Datum) → List (String × Datum)
  | l, [] => l
  | l, (k, d) :: r => merge (Entries.put k (mergeValue (Entries.find? k l) d) l) r

/-- The value for a name: an object merges with the object that was there, everything else replaces
it. -/
def mergeValue : Option Datum → Datum → Datum
  | some (.obj l), .obj r => .obj (merge l r)
  | _, d => d

end

/-- The error of an operator on data it is not meant for. -/
def noSuch (sign : String) (a b : Datum) : Output :=
  fail ("cannot calculate " ++ a.text ++ " " ++ sign ++ " " ++ b.text)

/-- Null is neutral, numbers add up, texts and arrays are joined, members of the second object
win. -/
def add (a b : Datum) : Output :=
  match a, b with
  | .null, d | d, .null => .ok d
  | a, b =>
    match a.calculable, b.calculable with
    | .int x, .int y => .ok (wholeOr (x.toInt + y.toInt) (widen x + widen y))
    | .int x, .float y => .ok (.float (y + widen x))
    | .float x, .int y => .ok (.float (x + widen y))
    | .float x, .float y => .ok (.float (x + y))
    | .str x, .str y => .ok (.str (x ++ y))
    | .arr x, .arr y => .ok (.arr (x ++ y))
    | .obj x, .obj y => .ok (.obj (Entries.putAll x y))
    | a, b => noSuch "+" a b

/-- Numbers, or the items of the first array that are not in the second. -/
def sub (a b : Datum) : Output :=
  match a.calculable, b.calculable with
  | .int x, .int y => .ok (wholeOr (x.toInt - y.toInt) (widen x - widen y))
  | .int x, .float y => .ok (.float (widen x - y))
  | .float x, .int y => .ok (.float (x - widen y))
  | .float x, .float y => .ok (.float (x - y))
  | .arr x, .arr y => .ok (.arr (x.filter fun d => !y.any (d.same ·)))
  | a, b => noSuch "-" a b

/-- A text so many times over, or null for none. -/
def timesText (n : Int64) (s : String) : Datum :=
  if n ≤ 0 then .null else .str (String.join (List.replicate n.toInt.toNat s))

/-- Numbers, a text and a whole number, or two objects. -/
def mul (a b : Datum) : Output :=
  match a.calculable, b.calculable with
  | .int x, .int y => .ok (wholeOr (x.toInt * y.toInt) (widen x * widen y))
  | .int x, .float y => .ok (.float (y * widen x))
  | .float x, .int y => .ok (.float (x * widen y))
  | .float x, .float y => .ok (.float (x * y))
  | .int n, .str s | .str s, .int n => .ok (timesText n s)
  | .obj x, .obj y => .ok (.obj (merge x y))
  | a, b => noSuch "*" a b

/-- Numbers, or a text and the separator that it is split at. -/
def div (a b : Datum) : Output :=
  match a.calculable, b.calculable with
  | .int x, .int y => .ok (.float (widen x / widen y))
  | .int x, .float y => .ok (.float (widen x / y))
  | .float x, .int y => .ok (.float (x / widen y))
  | .float x, .float y => .ok (.float (x / y))
  | .str s, .str sep => .ok (.arr (split s sep))
  | a, b => noSuch "/" a b

/-- The remainder, with the sign of the first number; a whole number has none by zero. -/
def rem (a b : Datum) : Output :=
  match a.calculable, b.calculable with
  | .int x, .int y =>
    if y = 0 then noSuch "%" a b else .ok (.int (Int64.ofInt (x.toInt.tmod y.toInt)))
  | .int x, .float y => .ok (.float (floatRem (widen x) y))
  | .float x, .int y => .ok (.float (floatRem x (widen y)))
  | .float x, .float y => .ok (.float (floatRem x y))
  | a, b => noSuch "%" a b

/-- The number with the other sign. -/
def neg (a : Datum) : Output :=
  match a.calculable with
  | .int x => .ok (.int (-x))
  | .float x => .ok (.float (-x))
  | a => a.unfit "number"

end Datum

/-- The result of an operator. -/
def Math.run : Math → Datum → Datum → Output
  | .add => Datum.add
  | .sub => Datum.sub
  | .mul => Datum.mul
  | .div => Datum.div
  | .rem => Datum.rem

end Conform.Filter
