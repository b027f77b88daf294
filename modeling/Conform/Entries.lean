/-!
# Entries in insertion order

Named entries are a list of pairs. A name that is put again keeps its place.
-/

namespace Conform.Entries

variable {α β : Type}

/-- The first entry under the name `k`. -/
def find? (k : String) : List (String × α) → Option α
  | [] => none
  | (k', a) :: r => if k' = k then some a else find? k r

/-- Is there an entry under the name `k`? -/
def has (k : String) (m : List (String × α)) : Bool := m.any (·.1 == k)

/-- The names, in order. -/
def keys (m : List (String × α)) : List String := m.map (·.1)

/-- Replaces the entry under `k` where it stands, or adds one at the end. -/
def put (k : String) (a : α) : List (String × α) → List (String × α)
  | [] => [(k, a)]
  | (k', b) :: r => if k' = k then (k, a) :: r else (k', b) :: put k a r

/-- Puts all entries of the second list, in order. -/
def putAll (m : List (String × α)) : List (String × α) → List (String × α)
  | [] => m
  | (k, a) :: r => putAll (put k a m) r

/-- One entry a name: the first place, the last value. -/
def settle (m : List (String × α)) : List (String × α) := putAll [] m

@[simp] theorem find?_nil (k : String) : find? k ([] : List (String × α)) = none := rfl

theorem find?_put (k k' : String) (a : α) (m : List (String × α)) :
    find? k' (put k a m) = if k = k' then some a else find? k' m := by
  induction m with
  | nil => simp [put, find?]
  | cons p r ih =>
    obtain ⟨n, b⟩ := p
    by_cases h : n = k <;> by_cases h' : k = k' <;> simp_all [put, find?]

theorem has_iff_mem_keys (k : String) (m : List (String × α)) : has k m = true ↔ k ∈ keys m := by
  simp [has, keys]

theorem find?_eq_none_iff (k : String) (m : List (String × α)) : find? k m = none ↔ k ∉ keys m := by
  induction m with
  | nil => simp [keys]
  | cons p r ih =>
    obtain ⟨n, b⟩ := p
    by_cases h : n = k <;> simp_all [find?, keys, eq_comm]

/-- A new name goes to the end, a known one keeps its place. -/
theorem keys_put (k : String) (a : α) (m : List (String × α)) :
    keys (put k a m) = if k ∈ keys m then keys m else keys m ++ [k] := by
  induction m with
  | nil => simp [put, keys]
  | cons p r ih =>
    obtain ⟨n, b⟩ := p
    by_cases h : n = k
    · simp [put, keys, h]
    · by_cases h' : k ∈ keys r <;> simp_all [put, keys, eq_comm]

end Conform.Entries
