/-!
# Failures of validation

A failure has a kind, a message, and the path from the input to the part that failed. Where no
branch of a union matched, the failure of the first branch is its cause.
-/

namespace Conform

/-- One step into a value. -/
inductive Segment where
  | field (name : String)
  | index (i : Nat)
deriving DecidableEq, Repr

/-- The way from a value to a part of it, the first step first. -/
abbrev Path := List Segment

/-- The text of a step. -/
def Segment.text : Segment → String
  | .field n => "." ++ n
  | .index i => "[" ++ toString i ++ "]"

/-- The text of a path; the value itself is a single point. -/
def Path.text : Path → String
  | [] => "."
  | p => String.join (p.map Segment.text)

/-- The kinds of failures. -/
inductive FailureKind where
  | typeMismatch
  | coercionFailure
  | missingRequiredField
  | unknownField
  | refinementViolation
  | unresolvedReference
  | noUnionBranchMatched
  | literalMismatch
deriving DecidableEq, Repr

namespace FailureKind

/-- All kinds. -/
def all : List FailureKind :=
  [.typeMismatch, .coercionFailure, .missingRequiredField, .unknownField, .refinementViolation,
    .unresolvedReference, .noUnionBranchMatched, .literalMismatch]

/-- The name of a kind. -/
def name : FailureKind → String
  | .typeMismatch => "TypeMismatch"
  | .coercionFailure => "CoercionFailure"
  | .missingRequiredField => "MissingRequiredField"
  | .unknownField => "UnknownField"
  | .refinementViolation => "RefinementViolation"
  | .unresolvedReference => "UnresolvedReference"
  | .noUnionBranchMatched => "NoUnionBranchMatched"
  | .literalMismatch => "LiteralMismatch"

/-- The kind with a given name. -/
def ofName? (s : String) : Option FailureKind := all.find? (·.name == s)

/-- A failure that is no fault of the input. -/
def isInternal : FailureKind → Bool
  | .unresolvedReference => true
  | _ => false

@[simp] theorem ofName?_name (k : FailureKind) : ofName? k.name = some k := by cases k <;> decide

end FailureKind

/-- The first failure of a validation. -/
structure Failure where
  kind : FailureKind
  path : Path
  message : String
  cause : Option Failure

namespace Failure

/-- A failure of the value at hand, without a cause. -/
def here (k : FailureKind) (message : String) : Failure := ⟨k, [], message, none⟩

/-- The text of a failure: where it is, and what it is. -/
def text (f : Failure) : String := f.path.text ++ ": " ++ f.message

/-- The failure as seen from a value that has this one at the path `p`; its causes move too. -/
def under (p : Path) : Failure → Failure
  | ⟨k, q, m, none⟩ => ⟨k, p ++ q, m, none⟩
  | ⟨k, q, m, some c⟩ => ⟨k, p ++ q, m, some (c.under p)⟩

/-- The causes of a failure, the nearest first. -/
def causes : Failure → List Failure
  | ⟨_, _, _, none⟩ => []
  | ⟨_, _, _, some c⟩ => c :: c.causes

/-- The failure at the end of the chain of causes. -/
def rootCause : Failure → Failure
  | ⟨k, q, m, none⟩ => ⟨k, q, m, none⟩
  | ⟨_, _, _, some c⟩ => c.rootCause

end Failure
end Conform
