import Conform.Read.Fault

/-!
# Shapes of documents

What is asked of a document at a place, and the fault when it is something else. A structure may be
written as an object or as an array of its parts in order; a term with variants names its variant in
one member, or in the first place of an array.
-/

namespace Conform.Read

/-- A text. -/
def asText : Json → Except Fault String
  | .str s => .ok s
  | j => .error (.wrongType (.ofJson j) "a string")

/-- A text or null. -/
def asOptionalText : Json → Except Fault (Option String)
  | .null => .ok none
  | j => (asText j).map some

/-- A truth value. -/
def asBool : Json → Except Fault Bool
  | .bool b => .ok b
  | j => .error (.wrongType (.ofJson j) "a boolean")

/-- A length. -/
def asLength : Json → Except Fault UInt64
  | .num (.int n) =>
    if 0 ≤ n.toInt then .ok (UInt64.ofNat n.toInt.toNat) else .error (.wrongValue (.int n.toInt) "usize")
  | .num (.big n _) => .ok n
  | j => .error (.wrongType (.ofJson j) "usize")

/-- A list, read item by item. -/
def asList {α : Type} (item : Json → Except Fault α) : Json → Except Fault (List α)
  | .arr xs => xs.mapM item
  | j => .error (.wrongType (.ofJson j) "a sequence")

/-- The parts of a structure, taken up in the order in which they stand. -/
structure Shape (σ α : Type) where
  /-- What the structure is called when something else stands in its place. -/
  expected : String
  /-- The names of the parts, in order. -/
  known : List String
  start : σ
  /-- Takes up the part with a given name. -/
  step : String → σ → Json → Except Fault σ
  /-- Ends the structure; the first argument says what is wrong when a part is absent. -/
  finish : (String → Fault) → σ → Except Fault α

namespace Shape

variable {σ α : Type}

/-- Takes up members in order. Unknown names are passed over, known ones may stand once. -/
def members (s : Shape σ α) : List String → σ → List (String × Json) → Except Fault σ
  | _, st, [] => .ok st
  | seen, st, (k, j) :: r =>
    if s.known.contains k then
      if seen.contains k then .error (.repeatedField k)
      else do
        let st ← s.step k st j
        s.members (k :: seen) st r
    else s.members seen st r

/-- Takes up items in the order of the names; items without a name are left over. -/
def elements (s : Shape σ α) : List String → σ → List Json → Except Fault (σ × List Json)
  | k :: ks, st, j :: r => do
    let st ← s.step k st j
    s.elements ks st r
  | _, st, r => .ok (st, r)

/-- A structure of `n` parts, in words. -/
def counted (n : Nat) : String := toString n ++ (if n = 1 then " element" else " elements")

/-- The structure that members stand for. -/
def ofMembers (s : Shape σ α) (m : List (String × Json)) : Except Fault α := do
  let st ← s.members [] s.start m
  s.finish .missingField st

/-- The structure that the items of an array stand for. -/
def ofElements (s : Shape σ α) (xs : List Json) : Except Fault α := do
  let (st, left) ← s.elements s.known s.start xs
  let n := s.known.length
  let a ← s.finish (fun k => .wrongLength (s.known.idxOf k) (s.expected ++ " with " ++ counted n)) st
  if left.isEmpty then return a
  else throw (.wrongLength (n + left.length) (counted n ++ " in sequence"))

/-- The structure that a document stands for. -/
def ofJson (s : Shape σ α) : Json → Except Fault α
  | .arr xs => s.ofElements xs
  | .obj m => s.ofMembers m
  | j => .error (.wrongType (.ofJson j) s.expected)

end Shape

/-- What stands beside the name of a variant. -/
inductive Body where
  | members (m : List (String × Json))
  | elements (xs : List Json)

/-- The structure that a body stands for. -/
def Shape.ofBody {σ α : Type} (s : Shape σ α) : Body → Except Fault α
  | .members m => s.ofMembers m
  | .elements xs => s.ofElements xs

/-- A variant without parts; members are passed over. -/
def noParts {α : Type} (a : α) : Body → Except Fault α
  | .members _ => .ok a
  | .elements [] => .ok a
  | .elements xs => .error (.wrongLength xs.length (Shape.counted 0 ++ " in sequence"))

/-- A term with variants. -/
structure Variants (α : Type) where
  /-- The member that names the variant. -/
  tag : String
  /-- What the term is called. -/
  name : String
  /-- The names of the variants. -/
  known : List String
  /-- The term of a variant. -/
  decode : String → Body → Except Fault α

namespace Variants

variable {α : Type}

/-- The name of a variant, or its number. -/
def variant (v : Variants α) : Json → Except Fault String
  | .str s => if v.known.contains s then .ok s else .error (.unknownVariant s v.known)
  | .num (.int n) =>
    if n.toInt < 0 then .error (.wrongType (.int n.toInt) "variant identifier")
    else match v.known[n.toInt.toNat]? with
      | some s => .ok s
      | none => .error (.wrongValue (.int n.toInt) ("variant index 0 <= i < " ++ toString v.known.length))
  | .num (.big n _) =>
    .error (.wrongValue (.int n.toNat) ("variant index 0 <= i < " ++ toString v.known.length))
  | j => .error (.wrongType (.ofJson j) "variant identifier")

/-- The variant that members name, once. -/
def findTag (v : Variants α) : Option String → List (String × Json) → Except Fault String
  | some t, [] => .ok t
  | none, [] => .error (.missingField v.tag)
  | found, (k, j) :: r =>
    if k = v.tag then
      match found with
      | some _ => .error (.repeatedField v.tag)
      | none => do
        let t ← v.variant j
        v.findTag (some t) r
    else v.findTag found r

/-- The term that a document stands for. -/
def ofJson (v : Variants α) : Json → Except Fault α
  | .obj m => do
    let t ← v.findTag none m
    v.decode t (.members (m.filter (·.1 != v.tag)))
  | .arr [] => .error (.missingField v.tag)
  | .arr (j :: r) => do
    let t ← v.variant j
    v.decode t (.elements r)
  | j => .error (.wrongType (.ofJson j) ("internally tagged enum " ++ v.name))

end Variants
end Conform.Read
