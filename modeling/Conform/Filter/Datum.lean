import Conform.Decimal.Reading
import Conform.Decimal.Whole
import Conform.Json.Printer

/-!
# The data of filters

A filter works on JSON data. A number is a whole number of 64 bits, a binary number, or a numeral
that has not been calculated with and keeps its spelling. Data are ordered: null, the truth values,
numbers, texts, arrays, objects.
-/

namespace Conform.Filter

/-- What a filter reads and writes. -/
inductive Datum where
  | null
  | bool (b : Bool)
  | int (n : Int64)
  | float (x : Float)
  /-- A number as it was spelt. -/
  | numeral (text : String)
  | str (s : String)
  | arr (items : List Datum)
  | obj (members : List (String × Datum))

namespace Datum

instance : Inhabited Datum := ⟨.null⟩

/-- Null and false are false, everything else is true. -/
def truth : Datum → Bool
  | .null => false
  | .bool b => b
  | _ => true

/-- The whole number that a run of digits after an optional sign writes, when it has 64 bits. -/
def wholeNumeral? (s : String) : Option Int64 :=
  let (negative, ds) := Numeral.sign? s.toList
  if ds.isEmpty || !ds.all Char.isDigit then none
  else
    let n : Int := Text.natOfDigits ds
    whole? (if negative then -n else n)

/-- The number with the spelling `s`: a whole number where it fits, else the spelling itself. -/
def ofNumeral (s : String) : Datum :=
  match wholeNumeral? s with
  | some n => .int n
  | none => .numeral s

/-- The binary number nearest to a spelling. -/
def binary (s : String) : Float :=
  let (negative, cs) := Numeral.sign? s.toList
  match Numeral.unsigned? negative cs with
  | some n => n.toFloat
  | none => 0.0 / 0.0

/-- A spelling becomes a binary number; other data stay. -/
def calculable : Datum → Datum
  | .numeral s => .float (binary s)
  | d => d

/-! ## JSON -/

mutual

/-- A document, as data. -/
def ofJson : Json → Datum
  | .null => .null
  | .bool b => .bool b
  | .num (.int n) => .int n
  | .num n => .numeral n.text
  | .str s => .str s
  | .arr xs => .arr (ofItems xs)
  | .obj m => .obj (ofMembers m)

/-- Every item, as data. -/
def ofItems : List Json → List Datum
  | [] => []
  | j :: r => ofJson j :: ofItems r

/-- Every member, as data. -/
def ofMembers : List (String × Json) → List (String × Datum)
  | [] => []
  | (k, j) :: r => (k, ofJson j) :: ofMembers r

end

/-- Binary numbers from `0.0001` up to below `10 ^ 16` have no exponent, and always a fraction. -/
def layout : Layout := ⟨fun e => -4 ≤ e && e ≤ 15, true, false⟩

/-- One character of a quoted text: tabs and line breaks have short escapes, other controls long
ones. -/
def quoteChar (c : Char) : List Char :=
  if c = '\x08' then "\\u0008".toList
  else if c = '\x0c' then "\\u000c".toList
  else Json.quoteChar c

/-- A text in quotes. -/
def quote (s : String) : String := "\"" ++ String.ofList (s.toList.flatMap quoteChar) ++ "\""

mutual

/-- The text of data without blanks; a number that is not finite is written as null. -/
def text : Datum → String
  | .null => "null"
  | .bool b => if b then "true" else "false"
  | .int n => toString n.toInt
  | .float x => if x.isFinite then layout.text x else "null"
  | .numeral s => s
  | .str s => quote s
  | .arr xs => "[" ++ ",".intercalate (textItems xs) ++ "]"
  | .obj m => "\x7b" ++ ",".intercalate (textMembers m) ++ "\x7d"

/-- The text of every item. -/
def textItems : List Datum → List String
  | [] => []
  | d :: r => text d :: textItems r

/-- The text of every member. -/
def textMembers : List (String × Datum) → List String
  | [] => []
  | (k, d) :: r => (quote k ++ ":" ++ text d) :: textMembers r

end

/-- A text as it is, other data by their text. -/
def plainText : Datum → String
  | .str s => s
  | d => d.text

/-! ## Order -/

/-- Binary numbers in order; zero has one sign, and a number that is none comes before
everything. -/
def compareFloat (x y : Float) : Ordering :=
  if x == 0 && y == 0 then .eq
  else if x.isNaN then .lt
  else if y.isNaN then .gt
  else if x < y then .lt
  else if x == y then .eq
  else .gt

mutual

/-- Members sorted by name, at every depth. -/
def sorted : Datum → Datum
  | .arr xs => .arr (sortedItems xs)
  | .obj m => .obj ((sortedMembers m).mergeSort fun a b => a.1 ≤ b.1)
  | d => d

/-- Sorts the members in every item. -/
def sortedItems : List Datum → List Datum
  | [] => []
  | d :: r => sorted d :: sortedItems r

/-- Sorts the members in every value. -/
def sortedMembers : List (String × Datum) → List (String × Datum)
  | [] => []
  | (k, d) :: r => (k, sorted d) :: sortedMembers r

end

/-- The place of a kind of data in the order. -/
def rank : Datum → Nat
  | .null => 0
  | .bool _ => 1
  | .int _ | .float _ | .numeral _ => 2
  | .str _ => 3
  | .arr _ => 4
  | .obj _ => 5

/-- A number as a binary one. -/
def toFloat : Datum → Float
  | .int n => Float.ofInt n.toInt
  | .float x => x
  | .numeral s => binary s
  | _ => 0.0 / 0.0

/-- The order of two lists of names. -/
def compareNames : List String → List String → Ordering
  | [], [] => .eq
  | [], _ :: _ => .lt
  | _ :: _, [] => .gt
  | a :: r, b :: s => (compareOfLessAndEq a b).then (compareNames r s)

mutual

/-- The order of data whose members are sorted: two objects first by their names, then by their
values. -/
def compareSorted : Datum → Datum → Ordering
  | .bool a, .bool b => compare a.toNat b.toNat
  | .int a, .int b => compare a.toInt b.toInt
  | .str a, .str b => compareOfLessAndEq a b
  | .arr a, .arr b => compareItems a b
  | .obj a, .obj b =>
    (compareNames (a.map (·.1)) (b.map (·.1))).then (compareValues a b)
  | a, b =>
    if a.rank = 2 ∧ b.rank = 2 then compareFloat a.toFloat b.toFloat else compare a.rank b.rank

/-- The order of two lists of items. -/
def compareItems : List Datum → List Datum → Ordering
  | [], [] => .eq
  | [], _ :: _ => .lt
  | _ :: _, [] => .gt
  | a :: r, b :: s => (compareSorted a b).then (compareItems r s)

/-- The order of the values of two lists of members. -/
def compareValues : List (String × Datum) → List (String × Datum) → Ordering
  | [], [] => .eq
  | [], _ :: _ => .lt
  | _ :: _, [] => .gt
  | (_, a) :: r, (_, b) :: s => (compareSorted a b).then (compareValues r s)

end

/-- The order of data. -/
def order (a b : Datum) : Ordering := compareSorted a.sorted b.sorted

/-- Equal in the order: `1` and `1.0` are, and a number that is none differs from itself. -/
def same (a b : Datum) : Bool := order a b == .eq

/-- The name of the kind of data. -/
def kind : Datum → String
  | .null => "null"
  | .bool _ => "boolean"
  | .int _ | .float _ | .numeral _ => "number"
  | .str _ => "string"
  | .arr _ => "array"
  | .obj _ => "object"

end Datum
end Conform.Filter
