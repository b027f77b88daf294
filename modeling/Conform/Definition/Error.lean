import Conform.Text.Shown

/-!
# Faults of definitions

What can be wrong with definitions: the text, the names, or the types. None of these depends on an
input.
-/

namespace Conform

/-- A fault of definitions. -/
inductive DefinitionError where
  | repeatedDefinition (scope name : String)
  | repeatedField (type field : String)
  | repeatedUnit (unit : String)
  | unresolvedReference (scope origin name : String)
  | unguardedRecursion (cycle : List String)
  | unknownType (name : String)
  /-- A pattern that the engine refuses, with its reason. -/
  | invalidPattern (pattern why : String)
  | notDefined (scope name : String)
  | unknownUnit (unit : String)
  /-- A text that does not read as definitions: where in the document, and what is wrong. -/
  | badSource (path message : String)
deriving DecidableEq, Repr

/-- The message of a fault. -/
def DefinitionError.message : DefinitionError → String
  | .repeatedDefinition s n => "type '" ++ n ++ "' is already defined in scope '" ++ s ++ "'"
  | .repeatedField t f => "field '" ++ f ++ "' is declared twice in type '" ++ t ++ "'"
  | .repeatedUnit u => "definition unit '" ++ u ++ "' is already loaded"
  | .unresolvedReference s o n =>
    "type '" ++ o ++ "' references '" ++ n ++ "', which is not defined in scope '" ++ s ++ "'"
  | .unguardedRecursion c => "unguarded recursion: " ++ " -> ".intercalate c
  | .unknownType n => "unknown type in type definition: " ++ n
  | .invalidPattern p why => "invalid pattern " ++ Text.shown p ++ ": " ++ why
  | .notDefined s n => "no type named '" ++ n ++ "' in scope '" ++ s ++ "'"
  | .unknownUnit u => "definition unit '" ++ u ++ "' is not loaded"
  | .badSource p m => "at JSON path " ++ p ++ " → " ++ m

/-- The message of a fault, and behind it that of the fault of the engine that it comes from. -/
def DefinitionError.account (e : DefinitionError) : String :=
  match e with
  | .invalidPattern _ why => e.message ++ ": " ++ why
  | _ => e.message

end Conform
