import Conform.Calendar.DateTime
import Conform.Calendar.Duration
import Conform.Entries

/-!
# Values

What validation takes and gives: the values of JSON, with whole and binary numbers apart, and the
temporal values that texts are coerced to. A record keeps the order of its fields.
-/

namespace Conform

/-- A dynamic value. -/
inductive Value where
  | null
  | bool (b : Bool)
  | int (n : Int64)
  | float (x : Float)
  | str (s : String)
  | list (items : List Value)
  | record (fields : List (String × Value))
  | dateTime (d : DateTime)
  | date (d : Date)
  | duration (d : Duration)

namespace Value

instance : Inhabited Value := ⟨.null⟩

/-- The name of the sort of a value. -/
def sortName : Value → String
  | .null => "Null"
  | .bool _ => "Bool"
  | .int _ => "Int"
  | .float _ => "Float"
  | .str _ => "String"
  | .list _ => "List"
  | .record _ => "Record"
  | .dateTime _ => "DateTime"
  | .date _ => "Date"
  | .duration _ => "Duration"

/-- Is the value null? -/
def isNull : Value → Bool
  | .null => true
  | _ => false

/-- The binary number nearest to a whole number. -/
def widen (n : Int64) : Float := Float.ofInt n.toInt

/-- The whole number of a value. -/
def int? : Value → Option Int64
  | .int n => some n
  | _ => none

/-- The binary number of a value; a whole number is widened. -/
def float? : Value → Option Float
  | .int n => some (widen n)
  | .float x => some x
  | _ => none

/-- The text of a string value. -/
def str? : Value → Option String
  | .str s => some s
  | _ => none

/-- The items of a list value. -/
def items? : Value → Option (List Value)
  | .list xs => some xs
  | _ => none

/-- The fields of a record value. -/
def fields? : Value → Option (List (String × Value))
  | .record m => some m
  | _ => none

/-- The field `k` of a record; any other value has none. -/
def get? (k : String) (v : Value) : Option Value := v.fields?.bind (Entries.find? k)

/-- The date of a temporal value. -/
def date? : Value → Option Date
  | .dateTime d => some d.date
  | .date d => some d
  | _ => none

/-- The time of day of a temporal value. -/
def time? : Value → Option Time
  | .dateTime d => some d.time
  | _ => none

/-- The number of characters, items or fields. -/
def length? : Value → Option Nat
  | .str s => some s.length
  | .list xs => some xs.length
  | .record m => some m.length
  | _ => none

mutual

/-- Equal values. The order of fields does not count, a whole number never equals a binary one, and
numbers compare as numbers, so that the value that is no number equals nothing. -/
def same : Value → Value → Bool
  | .null, .null => true
  | .bool a, .bool b => a == b
  | .int a, .int b => a == b
  | .float a, .float b => a == b
  | .str a, .str b => a == b
  | .list a, .list b => sameItems a b
  | .record a, .record b => a.length == b.length && sameFields a b
  | .dateTime a, .dateTime b => a == b
  | .date a, .date b => a == b
  | .duration a, .duration b => a.same b
  | _, _ => false

/-- Equal items, place by place. -/
def sameItems : List Value → List Value → Bool
  | [], [] => true
  | a :: r, b :: s => same a b && sameItems r s
  | _, _ => false

/-- Every field of the first list has an equal one in the second. -/
def sameFields : List (String × Value) → List (String × Value) → Bool
  | [], _ => true
  | (k, a) :: r, m =>
    (match Entries.find? k m with
      | some b => same a b
      | none => false) && sameFields r m

end

/-- The order of two binary numbers; none when one is no number. -/
def compareFloat? (a b : Float) : Option Ordering :=
  if a < b then some .lt else if a == b then some .eq else if b < a then some .gt else none

/-- The order of two values of comparable sorts. A whole and a binary number compare as binary
numbers. -/
def compare? : Value → Value → Option Ordering
  | .int a, .int b => some (Ord.compare a.toInt b.toInt)
  | .int a, .float b => compareFloat? (widen a) b
  | .float a, .int b => compareFloat? a (widen b)
  | .float a, .float b => compareFloat? a b
  | .str a, .str b => some (Ord.compare a b)
  | .bool a, .bool b => some (Ord.compare a b)
  | .dateTime a, .dateTime b => some (a.compare b)
  | .date a, .date b => some (a.compare b)
  | .null, .null => some .eq
  | _, _ => none

end Value
end Conform
