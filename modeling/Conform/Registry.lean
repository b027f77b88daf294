import Conform.Definition.Lower
import Conform.Definition.Source

/-!
# Registry

A registry holds one scope for every unit that was loaded, in the order of loading. All units stand
inside the same prelude, if there is one. Loading is a step of the registry: it gives an answer and the
registry after it. A scope is built first and published then, and another unit of the same name may
have been published in between.
-/

namespace Conform

/-- The units that are loaded. -/
structure Registry where
  prelude : Option Scope
  units : List (String × Scope)

namespace Registry

/-- A registry without units. -/
def empty (prelude : Option Scope) : Registry := ⟨prelude, []⟩

/-- The scope of a unit. -/
def unit? (r : Registry) (u : String) : Option Scope := Entries.find? u r.units

/-- The names of the units, in the order of loading. -/
def unitNames (r : Registry) : List String := Entries.keys r.units

/-- Publishes a scope as a unit, unless there is one of this name. -/
def publish (r : Registry) (u : String) (s : Scope) : Except DefinitionError Scope × Registry :=
  if Entries.has u r.units then (.error (.repeatedUnit u), r)
  else (.ok s, { r with units := Entries.put u s r.units })

section Load

variable [PatternEngine]

/-- The scope of definitions that are to be a new unit. -/
def prepare (r : Registry) (u : String) (d : Definitions) : Except DefinitionError Scope :=
  match r.unit? u with
  | some _ => .error (.repeatedUnit u)
  | none => (Builder.empty u r.prelude).buildFrom d

/-- Loads definitions as a new unit. -/
def load (r : Registry) (u : String) (d : Definitions) : Except DefinitionError Scope × Registry :=
  match r.prepare u d with
  | .error e => (.error e, r)
  | .ok s => r.publish u s

/-- Reads definitions from text and loads them as a new unit. -/
def loadSource (r : Registry) (u : String) (source : Read.Bytes) :
    Except DefinitionError Scope × Registry :=
  match Definitions.parse source with
  | .error e => (.error e, r)
  | .ok d => r.load u d

end Load

/-- The validator of a type of a unit. -/
def validator (r : Registry) (u n : String) : Except DefinitionError Validator :=
  match r.unit? u with
  | some s => s.compile n
  | none => .error (.unknownUnit u)

end Registry
end Conform
