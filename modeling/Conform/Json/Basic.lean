import Conform.Decimal.Whole
import Conform.Entries

/-!
# JSON documents

A document keeps the order of its members. Whole numbers and binary numbers are kept apart, and a
whole number fits 64 bits, with or without a sign. A document as read may hold one name twice;
`settle` keeps the first place and the last value.
-/

namespace Conform

/-- The numbers of a document. -/
inductive Number where
  /-- A whole number of 64 bits with a sign. -/
  | int (n : Int64)
  /-- A whole number above that range that fits 64 bits without a sign. -/
  | big (n : UInt64) (above : 0x8000000000000000 ≤ n.toNat)
  /-- A binary number, never infinite. -/
  | float (x : Float) (finite : x.isFinite = true)

/-- A JSON document. -/
inductive Json where
  | null
  | bool (b : Bool)
  | num (n : Number)
  | str (s : String)
  | arr (items : List Json)
  | obj (members : List (String × Json))

namespace Number

/-- The whole number `i`, when it fits. -/
def ofInt? (i : Int) : Option Number :=
  match whole? i with
  | some n => some (.int n)
  | none =>
    if h : 0x8000000000000000 ≤ (UInt64.ofNat i.toNat).toNat ∧ i < 0x10000000000000000 then
      some (.big (UInt64.ofNat i.toNat) h.1)
    else none

/-- A binary number, when it is finite. -/
def ofFloat? (x : Float) : Option Number :=
  if h : x.isFinite = true then some (.float x h) else none

/-- Equal numbers of one sort: a whole number never equals a binary one. -/
def same : Number → Number → Bool
  | .int a, .int b => a == b
  | .big a _, .big b _ => a == b
  | .float a _, .float b _ => a == b
  | _, _ => false

end Number

namespace Json

instance : Inhabited Json := ⟨.null⟩

/-- A text, as a document. -/
instance : Coe String Json := ⟨.str⟩

/-- The whole number of a natural below `2 ^ 64`. -/
def ofNat (n : Nat) : Json := ((Number.ofInt? n).map .num).getD .null

/-- The member under `k` of an object. -/
def member? (k : String) : Json → Option Json
  | .obj m => Entries.find? k m
  | _ => none

/-- The text of a string document. -/
def text? : Json → Option String
  | .str s => some s
  | _ => none

/-- The items of an array document. -/
def items? : Json → Option (List Json)
  | .arr xs => some xs
  | _ => none

mutual

/-- Equal documents; the order of members does not count. -/
def same : Json → Json → Bool
  | .null, .null => true
  | .bool a, .bool b => a == b
  | .num a, .num b => a.same b
  | .str a, .str b => a == b
  | .arr a, .arr b => sameItems a b
  | .obj a, .obj b => a.length == b.length && sameMembers a b
  | _, _ => false

/-- Equal items, place by place. -/
def sameItems : List Json → List Json → Bool
  | [], [] => true
  | a :: r, b :: s => same a b && sameItems r s
  | _, _ => false

/-- Every member of the first list has an equal one in the second. -/
def sameMembers : List (String × Json) → List (String × Json) → Bool
  | [], _ => true
  | (k, a) :: r, m =>
    (match Entries.find? k m with
      | some b => same a b
      | none => false) && sameMembers r m

end

mutual

/-- At every depth one member a name: the first place, the last value. -/
def settle : Json → Json
  | .arr xs => .arr (settleItems xs)
  | .obj m => .obj (Entries.settle (settleMembers m))
  | j => j

/-- Settles every item. -/
def settleItems : List Json → List Json
  | [] => []
  | j :: r => settle j :: settleItems r

/-- Settles the value of every member. -/
def settleMembers : List (String × Json) → List (String × Json)
  | [] => []
  | (k, j) :: r => (k, settle j) :: settleMembers r

end
end Json
end Conform
