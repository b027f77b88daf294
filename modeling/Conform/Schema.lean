import Conform.Kind
import Conform.Predicate

/-!
# Type expressions

The types that values are validated against. The order of the branches of a union and of the fields
of a record counts: the first branch that matches wins, and the output has its fields in the order
of declaration.
-/

namespace Conform

/-- A declared field of a record. -/
structure Field (τ : Type) where
  name : String
  type : τ
  required : Bool

/-- What happens to keys that a record does not declare. -/
inductive Extras (τ : Type) where
  /-- They are refused. -/
  | closed
  /-- They are dropped. -/
  | ignored
  /-- They are kept, each validated against the type. -/
  | typed (t : τ)

/-- A type expression. -/
inductive Schema where
  | primitive (k : Kind)
  | literal (members : List Value)
  | nullable (inner : Schema)
  | union (branches : List Schema)
  | array (element : Schema)
  | record (fields : List (Field Schema)) (extras : Extras Schema)
  | refined (base : Schema) (constraints : List Constraint)
  | ref (name : String)

namespace Schema

instance : Inhabited Schema := ⟨.primitive .any⟩

mutual

/-- The names that a type refers to, in order: the fields of a record before its extras. -/
def references : Schema → List String
  | .primitive _ => []
  | .literal _ => []
  | .nullable t => references t
  | .union ts => branchReferences ts
  | .array t => references t
  | .record fs (.typed t) => fieldReferences fs ++ references t
  | .record fs _ => fieldReferences fs
  | .refined t _ => references t
  | .ref n => [n]

/-- The names that the branches refer to. -/
def branchReferences : List Schema → List String
  | [] => []
  | t :: r => references t ++ branchReferences r

/-- The names that the types of fields refer to. -/
def fieldReferences : List (Field Schema) → List String
  | [] => []
  | ⟨_, t, _⟩ :: r => references t ++ fieldReferences r

end

mutual

/-- The names reached without going into an item or a field: a cycle of these alone would meet the
same input again. -/
def unguarded : Schema → List String
  | .nullable t => unguarded t
  | .union ts => unguardedBranches ts
  | .refined t _ => unguarded t
  | .ref n => [n]
  | .primitive _ => []
  | .literal _ => []
  | .array _ => []
  | .record _ _ => []

/-- The names reached in this way from the branches. -/
def unguardedBranches : List Schema → List String
  | [] => []
  | t :: r => unguarded t ++ unguardedBranches r

end

mutual

/-- The first name that a record declares twice, at any depth: a field is looked at before its type,
the fields before the extras. -/
def repeatedField? : Schema → Option String
  | .primitive _ => none
  | .literal _ => none
  | .ref _ => none
  | .nullable t => repeatedField? t
  | .array t => repeatedField? t
  | .refined t _ => repeatedField? t
  | .union ts => repeatedInBranches? ts
  | .record fs (.typed t) => repeatedInFields? [] fs <|> repeatedField? t
  | .record fs _ => repeatedInFields? [] fs

/-- The first repetition in the branches. -/
def repeatedInBranches? : List Schema → Option String
  | [] => none
  | t :: r => repeatedField? t <|> repeatedInBranches? r

/-- The first repetition in fields that come after those named `seen`. -/
def repeatedInFields? (seen : List String) : List (Field Schema) → Option String
  | [] => none
  | ⟨n, t, _⟩ :: r =>
    if seen.contains n then some n
    else repeatedField? t <|> repeatedInFields? (n :: seen) r

end
end Schema
end Conform
