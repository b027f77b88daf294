import Conform.Definition.Decode
import Conform.Definition.Error
import Conform.Read.Source

/-!
# Definitions from text
-/

namespace Conform

open Read

namespace Definition

/-- Reads a type. -/
def typeReader : Reader TypeSyntax := fun depth t r => (types depth).read depth t r

/-- Reads a named type. -/
def typeDefinitionSource : SourceShape (Option String × Option TypeSyntax) TypeDefinition where
  expected := typeDefinitionShape.expected
  known := typeDefinitionShape.known
  start := (none, none)
  step k st depth t r :=
    if k = "name" then (textValue depth t r).map fun (s, r) => ((some s, st.2), r)
    else (typeReader depth t r).map fun (x, r) => ((st.1, some x), r)
  finish := typeDefinitionShape.finish

/-- Reads definitions. -/
def definitionsSource : SourceShape (Option (List TypeDefinition)) Definitions where
  expected := definitionsShape.expected
  known := definitionsShape.known
  start := none
  step _ _ depth t r := (listValue typeDefinitionSource.read depth t r).map fun (ds, r) => (some ds, r)
  finish := definitionsShape.finish

end Definition

/-- Reads a type from text. -/
def TypeSyntax.parse (bytes : Bytes) : Except DefinitionError TypeSyntax :=
  (source Definition.typeReader bytes).mapError fun f => .badSource f.path f.message

/-- Reads definitions from text. -/
def Definitions.parse (bytes : Bytes) : Except DefinitionError Definitions :=
  (source Definition.definitionsSource.read bytes).mapError fun f => .badSource f.path f.message

end Conform
