import Conform.Json.Basic
import Conform.Schema

/-!
# The syntax of definitions

Definitions are written as JSON. These are the terms that the documents stand for, before names are
looked at and patterns are read.
-/

namespace Conform

/-- A check, as written. -/
inductive PredicateSyntax where
  | compare (op : Comparison) (value : Json)
  | even
  | odd
  | minLength (n : UInt64)
  | maxLength (n : UInt64)
  | matching (pattern : String)
  | all (ps : List PredicateSyntax)
  | any (ps : List PredicateSyntax)
  | not (p : PredicateSyntax)

/-- A constraint, as written. -/
structure ConstraintSyntax where
  label : Option String
  condition : PredicateSyntax

/-- A field of a record, as written. -/
structure Property (τ : Type) where
  key : String
  type : τ
  optional : Bool

/-- A type, as written. -/
inductive TypeSyntax where
  | typeRef (name : String)
  | typeSchema (properties : List (Property TypeSyntax)) (extras : Extras TypeSyntax)
  | subtypeConstraint (base : TypeSyntax) (constraints : List ConstraintSyntax)
  | arrayType (element : TypeSyntax)
  | unionType (types : List TypeSyntax)
  | nullable (inner : TypeSyntax)
  | literal (values : List Json)

/-- A named type, as written. -/
structure TypeDefinition where
  name : String
  type : TypeSyntax

/-- The definitions of one unit. -/
structure Definitions where
  types : List TypeDefinition

/-! ## Encoding -/

namespace PredicateSyntax

/-- The word for a comparison. -/
def opName : Comparison → String
  | .gt => "gt"
  | .ge => "ge"
  | .lt => "lt"
  | .le => "le"
  | .eq => "eq"
  | .ne => "ne"

mutual

/-- The document of a check. -/
def encode : PredicateSyntax → Json
  | .compare op v => .obj [("op", .str (opName op)), ("value", v)]
  | .even => .obj [("op", .str "even")]
  | .odd => .obj [("op", .str "odd")]
  | .minLength n => .obj [("op", .str "min_length"), ("value", .ofNat n.toNat)]
  | .maxLength n => .obj [("op", .str "max_length"), ("value", .ofNat n.toNat)]
  | .matching p => .obj [("op", .str "matches"), ("pattern", .str p)]
  | .all ps => .obj [("op", .str "all"), ("of", .arr (encodeList ps))]
  | .any ps => .obj [("op", .str "any"), ("of", .arr (encodeList ps))]
  | .not p => .obj [("op", .str "not"), ("pred", encode p)]

/-- The documents of checks. -/
def encodeList : List PredicateSyntax → List Json
  | [] => []
  | p :: r => encode p :: encodeList r

end
end PredicateSyntax

/-- The document of a constraint. -/
def ConstraintSyntax.encode (c : ConstraintSyntax) : Json :=
  .obj [("label", match c.label with
    | some l => .str l
    | none => .null), ("condition", c.condition.encode)]

namespace TypeSyntax

mutual

/-- The document of a type. -/
def encode : TypeSyntax → Json
  | .typeRef n => .obj [("kind", .str "type_ref"), ("name", .str n)]
  | .typeSchema ps es =>
    .obj [("kind", .str "type_schema"), ("properties", .arr (encodeProperties ps)),
      ("extras", encodeExtras es)]
  | .subtypeConstraint b cs =>
    .obj [("kind", .str "subtype_constraint"), ("base", encode b),
      ("constraints", .arr (cs.map ConstraintSyntax.encode))]
  | .arrayType t => .obj [("kind", .str "array_type"), ("element", encode t)]
  | .unionType ts => .obj [("kind", .str "union_type"), ("types", .arr (encodeList ts))]
  | .nullable t => .obj [("kind", .str "nullable"), ("inner", encode t)]
  | .literal vs => .obj [("kind", .str "literal"), ("values", .arr vs)]

/-- The documents of types. -/
def encodeList : List TypeSyntax → List Json
  | [] => []
  | t :: r => encode t :: encodeList r

/-- The documents of fields. -/
def encodeProperties : List (Property TypeSyntax) → List Json
  | [] => []
  | ⟨k, t, o⟩ :: r =>
    .obj [("key", .str k), ("type", encode t), ("optional", .bool o)] :: encodeProperties r

/-- The document of what happens to other keys. -/
def encodeExtras : Extras TypeSyntax → Json
  | .closed => .str "closed"
  | .ignored => .str "ignored"
  | .typed t => encode t

end
end TypeSyntax

/-- The document of a named type. -/
def TypeDefinition.encode (d : TypeDefinition) : Json :=
  .obj [("name", .str d.name), ("type", d.type.encode)]

/-- The document of definitions. -/
def Definitions.encode (d : Definitions) : Json :=
  .obj [("types", .arr (d.types.map TypeDefinition.encode))]

end Conform
