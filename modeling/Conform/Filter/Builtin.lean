import Conform.Filter.Access
import Conform.Filter.Arithmetic
import Conform.Filter.Reading

/-!
# Built-in filters

The filters that are not written in the language itself. Most work on the input and the values of
their arguments; a few take their arguments as filters.
-/

namespace Conform.Filter

/-- A built-in filter. -/
inductive Builtin where
  /-- Has no output. -/
  | empty
  /-- Has one output, which depends on the input alone. -/
  | plain (run : Datum → Output)
  /-- Works on the input and the values of its arguments. -/
  | valued (run : Datum → List Datum → Outputs)
  /-- Sorts the items by the outputs of its argument. -/
  | sortBy
  /-- Sorts the items likewise, with one array for all that are alike. -/
  | groupBy
  /-- The first output of its argument. -/
  | first
  /-- So many outputs of its second argument as the first says. -/
  | limit

namespace Datum

/-- The items of an array. -/
def items : Datum → Except Stop (List Datum)
  | .arr xs => .ok xs
  | d => d.unfit "array"

/-- The characters of a text. -/
def string : Datum → Except Stop String
  | .str s => .ok s
  | d => d.unfit "string"

/-- The number of characters, items or members, or the size of a number. -/
def length : Datum → Output
  | .null => .ok (.int 0)
  | .bool b => fail ((Datum.bool b).text ++ " has no length")
  | .int n => .ok (.int (if n < 0 then -n else n))
  | .float x => .ok (.float x.abs)
  | .numeral s => .ok (.float (binary s).abs)
  | .str s => .ok (.int (Int64.ofNat s.length))
  | .arr xs => .ok (.int (Int64.ofNat xs.length))
  | .obj m => .ok (.int (Int64.ofNat m.length))

/-- The names of members or the places of items, in order. -/
def keys : Datum → Output
  | .arr xs => .ok (.arr ((List.range xs.length).map fun i => .int (Int64.ofNat i)))
  | .obj m => .ok (.arr (m.map fun p => .str p.1))
  | d => d.unfit "iterable (array or object)"

/-- Is there an item or member of that name? -/
def hasItem (d k : Datum) : Output :=
  match d, k with
  | .arr xs, .int n =>
    if 0 ≤ n then .ok (.bool (n.toInt.toNat < xs.length))
    else fail ("cannot index " ++ d.text ++ " with " ++ k.text)
  | .obj m, .str s => .ok (.bool (Entries.has s m))
  | _, _ => fail ("cannot index " ++ d.text ++ " with " ++ k.text)

/-- Sorts data, equal ones in the order they came. -/
def sort (xs : List Datum) : List Datum := xs.mergeSort fun a b => a.order b != .gt

/-- Sorts data by keys. -/
def sortKeyed (xs : List (Datum × Datum)) : List (Datum × Datum) :=
  xs.mergeSort fun a b => a.1.order b.1 != .gt

/-- Neighbours with one key, together. -/
def groupKeyed : List (Datum × Datum) → List (Datum × List Datum)
  | [] => []
  | (k, d) :: r =>
    match groupKeyed r with
    | (k', ds) :: gs => if k.same k' then (k, d :: ds) :: gs else (k, [d]) :: (k', ds) :: gs
    | [] => [(k, [d])]

/-- The data of a JSON text. -/
def read (d : Datum) : Output := do
  let s ← d.string
  match ofText s with
  | .ok x => return x
  | .error why => fail ("cannot parse " ++ s ++ " as JSON: " ++ why.message)

/-- The pieces of a text between the places where another one stands. -/
def splitAt (d sep : Datum) : Output :=
  match d, sep with
  | .str s, .str sep => .ok (.arr (split s sep))
  | _, _ => fail "split input and separator must be strings"

/-- The whole number that `f` sends a binary one to. -/
def rounded (f : Float → Float) : Datum → Output
  | .int n => .ok (.int n)
  | .float x => .ok (ofFloat (f x))
  | .numeral s => .ok (ofFloat (f (binary s)))
  | d => d.unfit "number"
where
  /-- A whole number where it fits. -/
  ofFloat (x : Float) : Datum :=
    if -9223372036854775808.0 ≤ x ∧ x < 9223372036854775808.0 then .int x.toInt64 else .float x

/-- Is `a` still inside a range that ends at `b` and goes by steps of `by_`? -/
def inRange (a b by_ : Datum) : Bool :=
  match by_.order (.int 0) with
  | .gt => a.order b == .lt
  | .lt => a.order b == .gt
  | .eq => !a.same b

/-- Numbers from `a` on by steps of `by_`, up to `b`; `n` bounds their count. -/
def range (b by_ : Datum) : Nat → Datum → Outputs
  | 0, _ => .one (.error .exhausted)
  | n + 1, a =>
    if inRange a b by_ then
      .cons (.ok a) fun _ =>
        match a.add by_ with
        | .ok a' => range b by_ n a'
        | .error e => .one (.error e)
    else .nil

end Datum

namespace Builtin

/-- A filter on texts. -/
def onText (f : String → Datum) : Builtin := .plain fun d => f <$> d.string

/-- A filter that works on the input and one value of its argument. -/
def onValue (f : Datum → Datum → Output) : Builtin :=
  .valued fun d args => .forEach (fun a => .one (f d a)) args

/-- The most numbers that one range may hold. -/
def rangeLimit : Nat := 1000000000000000

/-- The built-in filter with this name and number of arguments. -/
def find? (name : String) (arity : Nat) : Option Builtin :=
  match name, arity with
  | "null", 0 => some (.plain fun _ => .ok .null)
  | "true", 0 => some (.plain fun _ => .ok (.bool true))
  | "false", 0 => some (.plain fun _ => .ok (.bool false))
  | "empty", 0 => some .empty
  | "error", 0 => some (.plain fun d => .error (.error d))
  | "type", 0 => some (.plain fun d => .ok (.str d.kind))
  | "length", 0 => some (.plain fun d => d.length)
  | "keys_unsorted", 0 => some (.plain fun d => d.keys)
  | "sort", 0 => some (.plain fun d => (fun xs => .arr (Datum.sort xs)) <$> d.items)
  | "reverse", 0 => some (.plain fun d => (fun xs => .arr xs.reverse) <$> d.items)
  | "tojson", 0 | "@json", 0 => some (.plain fun d => .ok (.str d.text))
  | "@text", 0 => some (.plain fun d => .ok (.str d.plainText))
  | "fromjson", 0 => some (.plain fun d => d.read)
  | "floor", 0 => some (.plain fun d => d.rounded Float.floor)
  | "ceil", 0 => some (.plain fun d => d.rounded Float.ceil)
  | "round", 0 => some (.plain fun d => d.rounded Float.round)
  | "ascii_downcase", 0 => some (onText fun s => .str s.toLower)
  | "ascii_upcase", 0 => some (onText fun s => .str s.toUpper)
  | "explode", 0 => some (onText fun s => .arr (s.toList.map fun c => .int (Int64.ofNat c.toNat)))
  | "has", 1 => some (onValue Datum.hasItem)
  | "split", 1 => some (onValue Datum.splitAt)
  | "startswith", 1 => some (onValue fun d a => do
      return .bool ((← d.string).startsWith (← a.string)))
  | "endswith", 1 => some (onValue fun d a => do
      return .bool ((← d.string).endsWith (← a.string)))
  | "range", 3 => some (.valued fun _ args =>
      match args with
      | [a, b, c] => Datum.range b c rangeLimit a
      | _ => .nil)
  | "sort_by", 1 => some .sortBy
  | "group_by", 1 => some .groupBy
  | "first", 1 => some .first
  | "limit", 2 => some .limit
  | _, _ => none

end Builtin
end Conform.Filter
