import Conform.Definition.Error
import Conform.Scope.Cycle
import Conform.Validate

/-!
# Building scopes

A builder collects bindings; `build` checks them all and gives a scope. A validator is a name in a
scope.
-/

namespace Conform

/-- Bindings that are still to be checked. -/
structure Builder where
  name : String
  parent : Option Scope
  bindings : List (String × Schema)

namespace Builder

/-- An empty builder. -/
def empty (name : String) (parent : Option Scope) : Builder := ⟨name, parent, []⟩

/-- Binds a name. A name of an outer scope may be bound again, one of this scope may not. -/
def register (b : Builder) (n : String) (t : Schema) : Except DefinitionError Builder :=
  if Entries.has n b.bindings then .error (.repeatedDefinition b.name n)
  else .ok { b with bindings := b.bindings ++ [(n, t)] }

/-- Is the name bound here or in a scope around? -/
def knows (b : Builder) (n : String) : Bool :=
  Entries.has n b.bindings ||
    match b.parent with
    | some p => (p.lookup n).isSome
    | none => false

/-- Checks one binding: no record declares a field twice, and every reference is bound. -/
def checkBinding (b : Builder) (n : String) (t : Schema) : Except DefinitionError Unit :=
  match t.repeatedField? with
  | some f => .error (.repeatedField n f)
  | none =>
    match t.references.find? (!b.knows ·) with
    | some r => .error (.unresolvedReference b.name n r)
    | none => .ok ()

/-- Checks bindings in order. -/
def checkAll (b : Builder) : List (String × Schema) → Except DefinitionError Unit
  | [] => .ok ()
  | (n, t) :: r => do
    b.checkBinding n t
    checkAll b r

/-- Checks every binding, then looks for unguarded cycles. -/
def build (b : Builder) : Except DefinitionError Scope := do
  b.checkAll b.bindings
  match Cycle.find? b.bindings with
  | some c => throw (.unguardedRecursion c)
  | none => return ⟨b.name, b.parent, b.bindings⟩

end Builder

/-- A name that is bound in a scope. -/
structure Validator where
  scope : Scope
  name : String

namespace Validator

/-- Validates a value. -/
def validate (w : Validator) (v : Value) : Except Failure Value :=
  validateIn w.scope (.ref w.name) v

/-- Validates a document and gives the canonical one. -/
def validateJson (w : Validator) (j : Json) : Except Failure Json :=
  (w.validate (Value.ofJson j)).map Value.toJson

end Validator

/-- The validator of a name. -/
def Scope.compile (s : Scope) (n : String) : Except DefinitionError Validator :=
  match s.lookup n with
  | some _ => .ok ⟨s, n⟩
  | none => .error (.notDefined s.name n)

end Conform
