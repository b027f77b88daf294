import Conform.Pattern.Engine
import Conform.Text.Shown
import Conform.Value.Json

/-!
# Predicates and constraints

A predicate is a check on a value that has been coerced. A comparison of values that do not compare
fails, whatever the comparison asks.
-/

namespace Conform

/-- The comparisons. -/
inductive Comparison where
  | gt
  | ge
  | lt
  | le
  | eq
  | ne
deriving DecidableEq, Repr

namespace Comparison

/-- Does the order of two values satisfy the comparison? -/
def holds : Comparison → Ordering → Bool
  | .gt, o => o == .gt
  | .ge, o => o != .lt
  | .lt, o => o == .lt
  | .le, o => o != .gt
  | .eq, o => o == .eq
  | .ne, o => o != .eq

/-- The sign of a comparison. -/
def symbol : Comparison → String
  | .gt => ">"
  | .ge => ">="
  | .lt => "<"
  | .le => "<="
  | .eq => "=="
  | .ne => "!="

end Comparison

/-- A check on a value. -/
inductive Predicate where
  | compare (op : Comparison) (bound : Value)
  | even
  | odd
  | minLength (n : Nat)
  | maxLength (n : Nat)
  | matching (p : Pattern)
  | all (ps : List Predicate)
  | any (ps : List Predicate)
  | not (p : Predicate)
  | custom (f : Value → Bool)

namespace Predicate

mutual

/-- Does the predicate hold of the value? -/
def eval : Predicate → Value → Bool
  | .compare op b, v =>
    match v.compare? b with
    | some o => op.holds o
    | none => false
  | .even, v =>
    match v.int? with
    | some n => n.toInt % 2 == 0
    | none => false
  | .odd, v =>
    match v.int? with
    | some n => n.toInt % 2 != 0
    | none => false
  | .minLength n, v =>
    match v.length? with
    | some k => n ≤ k
    | none => false
  | .maxLength n, v =>
    match v.length? with
    | some k => k ≤ n
    | none => false
  | .matching p, v =>
    match v.str? with
    | some s => p.finds s
    | none => false
  | .all ps, v => evalAll ps v
  | .any ps, v => evalAny ps v
  | .not p, v => !eval p v
  | .custom f, v => f v

/-- Do all predicates hold of the value? -/
def evalAll : List Predicate → Value → Bool
  | [], _ => true
  | p :: r, v => eval p v && evalAll r v

/-- Does some predicate hold of the value? -/
def evalAny : List Predicate → Value → Bool
  | [], _ => false
  | p :: r, v => eval p v || evalAny r v

end

mutual

/-- The text of a predicate. -/
def text : Predicate → String
  | .compare op b => "_ " ++ op.symbol ++ " " ++ b.text
  | .even => "even"
  | .odd => "odd"
  | .minLength n => "min_length(" ++ toString n ++ ")"
  | .maxLength n => "max_length(" ++ toString n ++ ")"
  | .matching p => "matches(" ++ Text.shown p.source ++ ")"
  | .all ps => "all([" ++ ", ".intercalate (texts ps) ++ "])"
  | .any ps => "any([" ++ ", ".intercalate (texts ps) ++ "])"
  | .not p => "not(" ++ text p ++ ")"
  | .custom _ => "<custom>"

/-- The texts of predicates. -/
def texts : List Predicate → List String
  | [] => []
  | p :: r => text p :: texts r

end
end Predicate

/-- A predicate with a label. -/
structure Constraint where
  label : Option String
  predicate : Predicate

/-- What to say when the constraint fails: a label of several words is the message, one word is the
name of the constraint. -/
def Constraint.complaint (c : Constraint) : String :=
  match c.label with
  | some l => if l.toList.contains ' ' then l else "constraint '" ++ l ++ "' failed"
  | none => "constraint failed"

end Conform
