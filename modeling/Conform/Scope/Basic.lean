import Conform.Schema

/-!
# Scopes

A scope binds names to types and may stand inside another scope. A name means the type bound in the
nearest scope that binds it, and the names inside that type are looked up from there.
-/

namespace Conform

/-- A checked set of bindings. -/
structure Scope where
  name : String
  parent : Option Scope
  bindings : List (String × Schema)

namespace Scope

/-- The type a name is bound to, with the scope that binds it. -/
def resolve (n : String) : Scope → Option (Schema × Scope)
  | ⟨nm, none, bs⟩ => (Entries.find? n bs).map (·, ⟨nm, none, bs⟩)
  | ⟨nm, some p, bs⟩ =>
    match Entries.find? n bs with
    | some t => some (t, ⟨nm, some p, bs⟩)
    | none => p.resolve n

/-- The type a name is bound to. -/
def lookup (s : Scope) (n : String) : Option Schema := (s.resolve n).map (·.1)

/-- The names bound in this scope itself, in order. -/
def names (s : Scope) : List String := Entries.keys s.bindings

/-- The scopes around this one, the nearest first. -/
def ancestors : Scope → List Scope
  | ⟨_, none, _⟩ => []
  | ⟨_, some p, _⟩ => p :: p.ancestors

/-- The number of bindings here and in all scopes around. -/
def size : Scope → Nat
  | ⟨_, none, bs⟩ => bs.length
  | ⟨_, some p, bs⟩ => bs.length + p.size

end Scope
end Conform
