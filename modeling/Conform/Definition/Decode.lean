import Conform.Definition.Syntax
import Conform.Read.Shape

/-!
# Definitions from documents

The terms that documents stand for. The decoders take a bound on how deep types and checks are
nested; the depth of the document is always enough.
-/

namespace Conform

mutual

/-- The number of containers that stand inside each other. -/
def Json.depth : Json → Nat
  | .arr xs => 1 + depthItems xs
  | .obj m => 1 + depthMembers m
  | _ => 0

/-- The greatest depth of the items. -/
def Json.depthItems : List Json → Nat
  | [] => 0
  | j :: r => max j.depth (depthItems r)

/-- The greatest depth of the members. -/
def Json.depthMembers : List (String × Json) → Nat
  | [] => 0
  | (_, j) :: r => max j.depth (depthMembers r)

end

open Read

namespace Definition

/-- A structure with a single part. -/
def oneField {α β : Type} (expected name : String) (part : Json → Except Fault α) (make : α → β) :
    Shape (Option α) β where
  expected := expected
  known := [name]
  start := none
  step _ _ j := (part j).map some
  finish absent
    | some a => .ok (make a)
    | none => .error (absent name)

/-! ## Checks -/

/-- The words for the variants of a check. -/
def predicateNames : List String :=
  ["gt", "ge", "lt", "le", "eq", "ne", "even", "odd", "min_length", "max_length",
    "matches", "all", "any", "not"]

/-- The comparison of a word. -/
def comparison? (s : String) : Option Comparison :=
  [Comparison.gt, .ge, .lt, .le, .eq, .ne].find? (PredicateSyntax.opName · == s)

/-- What messages call a variant with a single part. -/
def predicateVariant (name : String) : String := "struct variant PredicateSyntax::" ++ name

/-- A capital letter in front and after each low line. -/
def camel (s : String) : String :=
  let rec go (up : Bool) : List Char → List Char
    | [] => []
    | c :: r => if c = '_' then go true r else (if up then c.toUpper else c) :: go false r
  String.ofList (go true s.toList)

/-- The checks, nested at most `depth` deep. -/
def predicates : Nat → Variants PredicateSyntax
  | 0 => ⟨"op", "PredicateSyntax", predicateNames, fun _ _ => .error (.missingField "op")⟩
  | depth + 1 => {
      tag := "op"
      name := "PredicateSyntax"
      known := predicateNames
      decode := fun t b =>
        let inner := (predicates depth).ofJson
        let expected := predicateVariant (camel t)
        match comparison? t with
        | some op => (oneField expected "value" .ok fun j => .compare op j.settle).ofBody b
        | none =>
          if t = "even" then noParts .even b
          else if t = "odd" then noParts .odd b
          else if t = "min_length" then (oneField expected "value" asLength .minLength).ofBody b
          else if t = "max_length" then (oneField expected "value" asLength .maxLength).ofBody b
          else if t = "matches" then (oneField expected "pattern" asText .matching).ofBody b
          else if t = "all" then (oneField expected "of" (asList inner) .all).ofBody b
          else if t = "any" then (oneField expected "of" (asList inner) .any).ofBody b
          else (oneField expected "pred" inner .not).ofBody b }

/-- The check that a document stands for. -/
def predicate (j : Json) : Except Fault PredicateSyntax := (predicates j.depth).ofJson j

/-- The parts of a constraint. -/
def constraintShape : Shape (Option (Option String) × Option PredicateSyntax) ConstraintSyntax where
  expected := "struct ConstraintSyntax"
  known := ["label", "condition"]
  start := (none, none)
  step k st j :=
    if k = "label" then (asOptionalText j).map fun l => (some l, st.2)
    else (predicate j).map fun p => (st.1, some p)
  finish absent
    | (l, some p) => .ok ⟨l.getD none, p⟩
    | (_, none) => .error (absent "condition")

/-! ## Types -/

/-- The words for the variants of a type. -/
def typeNames : List String :=
  ["type_ref", "type_schema", "subtype_constraint", "array_type", "union_type", "nullable", "literal"]

/-- The parts of a field, its type being decoded by `type`. -/
def propertyShape (type : Json → Except Fault TypeSyntax) :
    Shape (Option String × Option TypeSyntax × Option Bool) (Property TypeSyntax) where
  expected := "struct PropertySyntax"
  known := ["key", "type", "optional"]
  start := (none, none, none)
  step k st j :=
    if k = "key" then (asText j).map fun s => (some s, st.2)
    else if k = "type" then (type j).map fun t => (st.1, some t, st.2.2)
    else (asBool j).map fun b => (st.1, st.2.1, some b)
  finish absent
    | (some k, some t, o) => .ok ⟨k, t, o.getD false⟩
    | (none, _, _) => .error (absent "key")
    | (_, none, _) => .error (absent "type")

/-- The word that says what happens to other keys, alone or as the name of null. -/
def extrasMode? : Json → Option (Extras TypeSyntax)
  | .str s => if s = "closed" then some .closed else if s = "ignored" then some .ignored else none
  | .obj [(s, .null)] =>
    if s = "closed" then some .closed else if s = "ignored" then some .ignored else none
  | _ => none

/-- What happens to other keys: a word or a type. -/
def extras (type : Json → Except Fault TypeSyntax) (j : Json) : Except Fault (Extras TypeSyntax) :=
  match extrasMode? j with
  | some e => .ok e
  | none =>
    match type j with
    | .ok t => .ok (.typed t)
    | .error _ => .error (.noVariant "ExtrasSyntax")

/-- The parts of a record type. -/
def schemaShape (type : Json → Except Fault TypeSyntax) :
    Shape (Option (List (Property TypeSyntax)) × Option (Extras TypeSyntax)) TypeSyntax where
  expected := "struct variant TypeSyntax::TypeSchema"
  known := ["properties", "extras"]
  start := (none, none)
  step k st j :=
    if k = "properties" then (asList (propertyShape type).ofJson j).map fun ps => (some ps, st.2)
    else (extras type j).map fun e => (st.1, some e)
  finish _ st := .ok (.typeSchema (st.1.getD []) (st.2.getD .closed))

/-- The parts of a type with constraints. -/
def subtypeShape (type : Json → Except Fault TypeSyntax) :
    Shape (Option TypeSyntax × Option (List ConstraintSyntax)) TypeSyntax where
  expected := "struct variant TypeSyntax::SubtypeConstraint"
  known := ["base", "constraints"]
  start := (none, none)
  step k st j :=
    if k = "base" then (type j).map fun t => (some t, st.2)
    else (asList constraintShape.ofJson j).map fun cs => (st.1, some cs)
  finish absent
    | (some t, cs) => .ok (.subtypeConstraint t (cs.getD []))
    | (none, _) => .error (absent "base")

/-- The types, nested at most `depth` deep. -/
def types : Nat → Variants TypeSyntax
  | 0 => ⟨"kind", "TypeSyntax", typeNames, fun _ _ => .error (.missingField "kind")⟩
  | depth + 1 => {
      tag := "kind"
      name := "TypeSyntax"
      known := typeNames
      decode := fun t b =>
        let inner := (types depth).ofJson
        let expected := "struct variant TypeSyntax::" ++ camel t
        if t = "type_ref" then (oneField expected "name" asText .typeRef).ofBody b
        else if t = "type_schema" then (schemaShape inner).ofBody b
        else if t = "subtype_constraint" then (subtypeShape inner).ofBody b
        else if t = "array_type" then (oneField expected "element" inner .arrayType).ofBody b
        else if t = "union_type" then (oneField expected "types" (asList inner) .unionType).ofBody b
        else if t = "nullable" then (oneField expected "inner" inner .nullable).ofBody b
        else (oneField expected "values" (asList .ok) fun js => .literal (js.map Json.settle)).ofBody b }

/-- The parts of a named type. -/
def typeDefinitionShape : Shape (Option String × Option TypeSyntax) TypeDefinition where
  expected := "struct TypeDef"
  known := ["name", "type"]
  start := (none, none)
  step k st j :=
    if k = "name" then (asText j).map fun s => (some s, st.2)
    else ((types j.depth).ofJson j).map fun t => (st.1, some t)
  finish absent
    | (some n, some t) => .ok ⟨n, t⟩
    | (none, _) => .error (absent "name")
    | (_, none) => .error (absent "type")

/-- The parts of definitions. -/
def definitionsShape : Shape (Option (List TypeDefinition)) Definitions where
  expected := "struct Definitions"
  known := ["types"]
  start := none
  step _ _ j := (asList typeDefinitionShape.ofJson j).map some
  finish _ st := .ok ⟨st.getD []⟩

end Definition

/-- The type that a document stands for. -/
def TypeSyntax.decode (j : Json) : Except Fault TypeSyntax := (Definition.types j.depth).ofJson j

/-- The definitions that a document stands for. -/
def Definitions.decode (j : Json) : Except Fault Definitions := Definition.definitionsShape.ofJson j

end Conform
