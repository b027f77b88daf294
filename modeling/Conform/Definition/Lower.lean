import Conform.Definition.Error
import Conform.Definition.Syntax
import Conform.Scope.Builder
import Conform.Text.Upper

/-!
# From syntax to types

Names of primitive kinds stand for those kinds, other names with a capital in front refer to
definitions, and any other name is unknown. Patterns are read here, by any engine. The first fault in
the order of the source is reported: the fields of a record before its extras, the base of a type
before its constraints.
-/

namespace Conform

/-- The type that a name stands for. -/
def lowerName (n : String) : Except DefinitionError Schema :=
  match Kind.ofName? n with
  | some k => .ok (.primitive k)
  | none =>
    match n.toList with
    | c :: _ => if Text.isUpper c then .ok (.ref n) else .error (.unknownType n)
    | [] => .error (.unknownType n)

variable [PatternEngine]

namespace PredicateSyntax

mutual

/-- The predicate that a check stands for. -/
def lower : PredicateSyntax → Except DefinitionError Predicate
  | .compare op v => .ok (.compare op (Value.ofJson v))
  | .even => .ok .even
  | .odd => .ok .odd
  | .minLength n => .ok (.minLength n.toNat)
  | .maxLength n => .ok (.maxLength n.toNat)
  | .matching p =>
    match Pattern.read p with
    | .ok q => .ok (.matching q)
    | .error why => .error (.invalidPattern p why)
  | .all ps => (lowerList ps).map .all
  | .any ps => (lowerList ps).map .any
  | .not p => (lower p).map .not

/-- The predicates of checks, in order. -/
def lowerList : List PredicateSyntax → Except DefinitionError (List Predicate)
  | [] => .ok []
  | p :: r => do
    let q ← lower p
    let qs ← lowerList r
    return q :: qs

end
end PredicateSyntax

/-- The constraint that is written. -/
def ConstraintSyntax.lower (c : ConstraintSyntax) : Except DefinitionError Constraint :=
  c.condition.lower.map (⟨c.label, ·⟩)

namespace TypeSyntax

mutual

/-- The type that is written. -/
def lower : TypeSyntax → Except DefinitionError Schema
  | .typeRef n => lowerName n
  | .typeSchema ps es => do
    let fs ← lowerProperties ps
    let e ← lowerExtras es
    return .record fs e
  | .subtypeConstraint b cs => do
    let t ← lower b
    let ks ← cs.mapM ConstraintSyntax.lower
    return .refined t ks
  | .arrayType t => (lower t).map .array
  | .unionType ts => (lowerList ts).map .union
  | .nullable t => (lower t).map .nullable
  | .literal vs => .ok (.literal (vs.map Value.ofJson))

/-- The types that are written, in order. -/
def lowerList : List TypeSyntax → Except DefinitionError (List Schema)
  | [] => .ok []
  | t :: r => do
    let s ← lower t
    let ss ← lowerList r
    return s :: ss

/-- The fields that are written, in order. -/
def lowerProperties : List (Property TypeSyntax) → Except DefinitionError (List (Field Schema))
  | [] => .ok []
  | ⟨k, t, o⟩ :: r => do
    let s ← lower t
    let fs ← lowerProperties r
    return ⟨k, s, !o⟩ :: fs

/-- What happens to other keys. -/
def lowerExtras : Extras TypeSyntax → Except DefinitionError (Extras Schema)
  | .closed => .ok .closed
  | .ignored => .ok .ignored
  | .typed t => (lower t).map .typed

end
end TypeSyntax

/-- Registers definitions in order. -/
def Builder.define (b : Builder) : List TypeDefinition → Except DefinitionError Builder
  | [] => .ok b
  | d :: r => do
    let t ← d.type.lower
    let b ← b.register d.name t
    b.define r

/-- The scope of definitions. -/
def Builder.buildFrom (b : Builder) (d : Definitions) : Except DefinitionError Scope := do
  let b ← b.define d.types
  b.build

end Conform
