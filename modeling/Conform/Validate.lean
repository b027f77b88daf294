import Conform.Coerce
import Conform.Failure
import Conform.Scope.Basic

/-!
# Validation

`walk` checks a value against a type and rebuilds it; it recurses on the type and leaves references
to its argument `expand`. `follow` expands references in a scope, at most a given number of times on
any way down. `validateIn` allows as many as the bindings in sight, once for every level of the
input: a scope without unguarded cycles never needs more.
-/

namespace Conform

namespace Failure

/-- The failure of a coercion. -/
def ofCoerce (e : CoerceError) : Failure :=
  .here (match e.fault with
    | .mismatch => .typeMismatch
    | .unreadable => .coercionFailure) e.message

/-- A value of the wrong shape. -/
def shape (expected : String) (v : Value) : Failure :=
  .here .typeMismatch ("expected " ++ expected ++ ", got " ++ v.describe)

/-- A value that equals no member of a literal type. -/
def literal (members : List Value) (v : Value) : Failure :=
  .here .literalMismatch
    ("expected one of " ++ (Value.toJson (.list members)).compact ++ ", got " ++ v.describe)

/-- A field that is required and absent. -/
def missing (name : String) : Failure :=
  .here .missingRequiredField ("missing required field '" ++ name ++ "'")

/-- A key that a closed record does not declare. -/
def unknown (key : String) : Failure := .here .unknownField ("unknown field '" ++ key ++ "'")

/-- A constraint that does not hold. -/
def violated (c : Constraint) : Failure := .here .refinementViolation c.complaint

/-- A name that stands for no type. -/
def unresolved (name : String) : Failure :=
  .here .unresolvedReference ("unresolved type reference '" ++ name ++ "'")

/-- No branch of a union matched; the failure of the first one is the cause. -/
def noBranch : Option Failure → Failure
  | some f => ⟨.noUnionBranchMatched, [], "no union branch matched: " ++ f.message, some f⟩
  | none => .here .noUnionBranchMatched "union has no branches"

end Failure

namespace Validate

/-- The outcome of a part at one step from the value at hand. -/
def inside {α : Type} (s : Segment) (r : Except Failure α) : Except Failure α :=
  r.mapError (·.under [s])

/-- Validates items in order; the first failure ends it. -/
def items (f : Value → Except Failure Value) : Nat → List Value → Except Failure (List Value)
  | _, [] => .ok []
  | i, v :: r => do
    let o ← inside (.index i) (f v)
    let os ← items f (i + 1) r
    return o :: os

/-- Validates entries in order; the first failure ends it. -/
def entries (f : Value → Except Failure Value) :
    List (String × Value) → Except Failure (List (String × Value))
  | [] => .ok []
  | (k, v) :: r => do
    let o ← inside (.field k) (f v)
    let os ← entries f r
    return (k, o) :: os

/-- The first member that the value, coerced to the member's kind, is equal to. -/
def literal (v : Value) : List Value → Option Value
  | [] => none
  | m :: r =>
    match coerce (Kind.of m) v with
    | .ok o => if o.same m then some o else literal v r
    | .error _ => literal v r

/-- The first constraint that does not hold. -/
def broken? (v : Value) (cs : List Constraint) : Option Constraint :=
  cs.find? fun c => !c.predicate.eval v

/-- The entries whose keys no field declares. -/
def undeclared (fs : List (Field Schema)) (m : List (String × Value)) : List (String × Value) :=
  m.filter fun e => !fs.any (·.name == e.1)

mutual

/-- Validates a value against a type. References are left to `expand`. -/
def walk (expand : String → Value → Except Failure Value) : Schema → Value → Except Failure Value
  | .primitive k, v => (coerce k v).mapError Failure.ofCoerce
  | .literal ms, v =>
    match literal v ms with
    | some o => .ok o
    | none => .error (.literal ms v)
  | .nullable t, v => if v.isNull then .ok .null else walk expand t v
  | .union ts, v => (walkBranches expand ts v).mapError Failure.noBranch
  | .array t, v =>
    match v with
    | .list xs => (items (walk expand t) 0 xs).map .list
    | v => .error (.shape "List" v)
  | .record fs extras, v =>
    match v with
    | .record m => do
      let declared ← walkFields expand m fs
      let others ← walkExtras expand (undeclared fs m) extras
      return .record (Entries.settle (declared ++ others))
    | v => .error (.shape "Record" v)
  | .refined t cs, v => do
    let o ← walk expand t v
    match broken? o cs with
    | some c => .error (.violated c)
    | none => return o
  | .ref n, v => expand n v

/-- The output of the first branch that matches, or the failure of the first branch. -/
def walkBranches (expand : String → Value → Except Failure Value) :
    List Schema → Value → Except (Option Failure) Value
  | [], _ => .error none
  | t :: r, v =>
    match walk expand t v with
    | .ok o => .ok o
    | .error f => (walkBranches expand r v).mapError fun _ => some f

/-- Validates the declared fields that are present, in the order of declaration. -/
def walkFields (expand : String → Value → Except Failure Value) (m : List (String × Value)) :
    List (Field Schema) → Except Failure (List (String × Value))
  | [] => .ok []
  | ⟨n, t, required⟩ :: r =>
    match Entries.find? n m with
    | some v => do
      let o ← inside (.field n) (walk expand t v)
      let os ← walkFields expand m r
      return (n, o) :: os
    | none => if required then .error (.missing n) else walkFields expand m r

/-- Validates the entries that no field declares. -/
def walkExtras (expand : String → Value → Except Failure Value) (es : List (String × Value)) :
    Extras Schema → Except Failure (List (String × Value))
  | .closed =>
    match es with
    | [] => .ok []
    | (k, _) :: _ => .error (.unknown k)
  | .ignored => .ok []
  | .typed t => entries (walk expand t) es

end

/-- Validates against the type that a name means in a scope; at most `fuel` references are expanded
on any way down. -/
def follow : Nat → Scope → String → Value → Except Failure Value
  | 0, _, n, _ => .error (.unresolved n)
  | fuel + 1, s, n, v =>
    match s.resolve n with
    | some (t, home) => walk (follow fuel home) t v
    | none => .error (.unresolved n)

end Validate

mutual

/-- The number of containers that stand inside each other. -/
def Value.depth : Value → Nat
  | .list xs => 1 + depthItems xs
  | .record m => 1 + depthFields m
  | _ => 0

/-- The greatest depth of the items. -/
def Value.depthItems : List Value → Nat
  | [] => 0
  | v :: r => max v.depth (depthItems r)

/-- The greatest depth of the fields. -/
def Value.depthFields : List (String × Value) → Nat
  | [] => 0
  | (_, v) :: r => max v.depth (depthFields r)

end

/-- Validates a value against a type whose references mean nothing. -/
def validate (t : Schema) (v : Value) : Except Failure Value :=
  Validate.walk (fun n _ => .error (.unresolved n)) t v

/-- Validates a value against a type in a scope. -/
def validateIn (s : Scope) (t : Schema) (v : Value) : Except Failure Value :=
  Validate.walk (Validate.follow (s.size * (v.depth + 1)) s) t v

end Conform
