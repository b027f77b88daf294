import Conform.Filter.Outputs

/-!
# Parts of data

Reading a part: a member, an item, a slice, all values. Updating a part: the first output of a
filter takes its place, and a part without output goes away. A path leads to a part of a part.
-/

namespace Conform.Filter

/-- A part of a datum, as a path names it. -/
inductive Part where
  | index (d : Datum)
  | slice (lo hi : Option Datum)
  | each

namespace Datum

/-- The place that a whole number names, from the end if it is negative. -/
def place? (i : Int) (size : Nat) : Option Nat :=
  if 0 ≤ i then some i.toNat else if i.natAbs ≤ size then some (size - i.natAbs) else none

/-- A place that holds an item. -/
def itemPlace? (i : Int) (size : Nat) : Option Nat :=
  (place? i size).filter (· < size)

/-- The end of a slice, within the bounds. -/
def bound (i : Option Int) (size default : Nat) : Nat :=
  match i with
  | none => default
  | some i => min ((place? i size).getD 0) size

/-- A whole number. -/
def whole : Datum → Except Stop Int
  | .int n => .ok n.toInt
  | d => d.unfit "integer"

/-- An optional whole number. -/
def optionalWhole : Option Datum → Except Stop (Option Int)
  | none => .ok none
  | some d => some <$> d.whole

/-- The first place of a slice and the number of items in it. -/
def extent (lo hi : Option Datum) (size : Nat) : Except Stop (Nat × Nat) := do
  let lo ← optionalWhole lo
  let hi ← optionalWhole hi
  let first := bound lo size 0
  return (first, bound hi size size - first)

/-- The item or member that `i` names; null if there is none. -/
def item (d i : Datum) : Output :=
  match d, i with
  | .arr xs, .int n => .ok (((itemPlace? n.toInt xs.length).bind (xs[·]?)).getD .null)
  | .obj m, .str k => .ok ((Entries.find? k m).getD .null)
  | .arr _, _ | .obj _, _ => fail ("cannot index " ++ d.text ++ " with " ++ i.text)
  | _, _ => d.unfit "iterable (array or object)"

/-- A run of items or of characters. -/
def slice (d : Datum) (lo hi : Option Datum) : Output :=
  match d with
  | .arr xs => do
    let (first, count) ← extent lo hi xs.length
    return .arr ((xs.drop first).take count)
  | .str s => do
    let (first, count) ← extent lo hi s.length
    return .str (String.ofList ((s.toList.drop first).take count))
  | d => d.unfit "rangeable (array or string)"

/-- All items, or the values of all members. -/
def each : Datum → Outputs
  | .arr xs => .ofData xs
  | .obj m => .ofData (m.map (·.2))
  | d => .one (d.unfit "iterable (array or object)")

/-! ## Updates -/

/-- The datum itself where the part may be missing, else the error. -/
def excuse (optional : Bool) (d : Datum) (o : Output) : Output :=
  if optional then .ok d else o

/-- Removes the member at a place; the last one takes the place. -/
def swapRemove (m : List (String × Datum)) (i : Nat) : List (String × Datum) :=
  match m.getLast? with
  | some p => if i + 1 = m.length then m.dropLast else (m.dropLast).set i p
  | none => m

/-- The first output, if there is one. -/
def first? (o : Outputs) : Except Stop (Option Datum) :=
  match o.head? with
  | none => .ok none
  | some o => some <$> o

/-- Updates the member or item that `i` names. A missing member is null at first; an item must be
there. -/
def updateItem (d i : Datum) (optional : Bool) (f : Datum → Outputs) : Output :=
  match d with
  | .obj m =>
    match i with
    | .str k => do
      match m.findIdx? (·.1 == k), ← first? (f ((Entries.find? k m).getD .null)) with
      | _, some y => return .obj (Entries.put k y m)
      | some j, none => return .obj (swapRemove m j)
      | none, none => return d
    | i => excuse optional d (fail ("cannot index " ++ d.text ++ " with " ++ i.text))
  | .arr xs =>
    match i with
    | .int n =>
      match itemPlace? n.toInt xs.length with
      | some j => do
        match ← first? (f ((xs[j]?).getD .null)) with
        | some y => return .arr (xs.set j y)
        | none => return .arr (xs.eraseIdx j)
      | none => excuse optional d (fail ("index " ++ toString n.toInt ++ " out of bounds"))
    | i => excuse optional d (i.unfit "integer")
  | d => excuse optional d (d.unfit "iterable (array or object)")

/-- Updates a run of items as one array. -/
def updateSlice (d : Datum) (lo hi : Option Datum) (optional : Bool) (f : Datum → Outputs) :
    Output :=
  match d with
  | .arr xs =>
    match extent lo hi xs.length with
    | .error e => excuse optional d (.error e)
    | .ok (first, count) => do
      let middle ← match ← first? (f (.arr ((xs.drop first).take count))) with
        | none => .ok []
        | some (.arr ys) => .ok ys
        | some y => y.unfit "array"
      return .arr (xs.take first ++ middle ++ xs.drop (first + count))
  | d => excuse optional d (d.unfit "array")

/-- Updates all values: an item may become many, a member becomes the first output. -/
def updateEach (d : Datum) (optional : Bool) (f : Datum → Outputs) : Output :=
  match d with
  | .arr xs => Outputs.collect (.forEach f xs)
  | .obj m => do
    let m ← m.filterMapM fun (k, d) => do return (← first? (f d)).map ((k, ·))
    return .obj m
  | d => excuse optional d (d.unfit "iterable (array or object)")

end Datum

/-- The datum with the part updated. -/
def Part.update (p : Part) (optional : Bool) (f : Datum → Outputs) (d : Datum) : Output :=
  match p with
  | .index i => d.updateItem i optional f
  | .slice lo hi => d.updateSlice lo hi optional f
  | .each => d.updateEach optional f

/-- A path: parts of parts, each with the leave to be missing. -/
abbrev Path := List (Part × Bool)

/-- The datum with the end of the path updated. -/
def Path.update (f : Datum → Outputs) : Path → Datum → Output
  | [], d => (f d).head?.getD (.ok d)
  | [(p, optional)], d => p.update optional f d
  | (p, optional) :: r, d => p.update optional (fun e => .one (update f r e)) d

end Conform.Filter
