import Conform.Definition.Source
import Conform.Fixture.Basic

/-!
# Fixtures from text

The parts of a unit and of a case stand beside the parts of what they hold: the members that a unit
does not know are those of its definitions, and the members that a case does not know are those of
its expectation.
-/

namespace Conform.Read

/-- The parts of a structure that takes in all other members too. -/
structure OpenShape (σ α : Type) where
  expected : String
  known : List String
  start : σ
  step : String → σ → Reader σ
  /-- Ends the structure, given the other members. -/
  finish : σ → List (String × Json) → Except Fault α

namespace OpenShape

variable {σ α : Type}

/-- Takes up a member: a part of the structure, once, or another one, which is kept. -/
def visit (s : OpenShape σ α) (depth : Nat) (st : List String × σ × List (String × Json))
    (k : String) (t : Trail) (r : Bytes) :
    Except Stop ((List String × σ × List (String × Json)) × Bytes) :=
  if s.known.contains k then
    if st.1.contains k then .error (.loose (.repeatedField k) r)
    else
      (memberValue k t r fun t r => s.step k st.2.1 depth t r).map fun (x, r) =>
        ((k :: st.1, x, st.2.2), r)
  else (memberValue k t r (document depth)).map fun (j, r) => ((st.1, st.2.1, (k, j) :: st.2.2), r)

/-- Reads the structure, which is always an object. -/
def read (s : OpenShape σ α) : Reader α := fun depth t r =>
  let r := dropBlanks r
  if startsWith '\x7b' r then
    deeper depth r fun depth r => inObject do
      let ((_, st, others), r) ← members (s.visit depth) t ([], s.start, []) r
      match s.finish st others.reverse with
      | .ok a => return (a, r)
      | .error f => throw (.loose f r)
  else .error (mismatch s.expected r)

end OpenShape
end Conform.Read

namespace Conform

open Read

/-- The value of a member that stands once. -/
def onlyMember? (k : String) (m : List (String × Json)) : Option Json :=
  match m.filter (·.1 == k) with
  | [(_, j)] => some j
  | _ => none

/-- Which failure a document asks for. -/
def FailSpec.ofJson? : Json → Option FailSpec
  | .bool b => some (.any b)
  | .str s => some (.kind s)
  | _ => none

/-- The expectation that members describe. -/
def Expectation.ofMembers (m : List (String × Json)) : Except Fault Expectation :=
  match onlyMember? "expect" m with
  | some j => .ok (.equal j.settle)
  | none =>
    match (onlyMember? "fails" m).bind FailSpec.ofJson? with
    | some f => .ok (.fails f)
    | none => .error (.noVariant "Expectation")

/-- Reads a case. -/
def Case.shape : OpenShape (Option String × Option Json) Case where
  expected := "struct Case"
  known := ["call", "input"]
  start := (none, none)
  step k st depth t r :=
    if k = "call" then (textValue depth t r).map fun (s, r) => ((some s, st.2), r)
    else (anyValue depth t r).map fun (j, r) => ((st.1, some j.settle), r)
  finish st others :=
    match st with
    | (some c, some j) => do return ⟨c, j, ← Expectation.ofMembers others⟩
    | (none, _) => .error (.missingField "call")
    | (_, none) => .error (.missingField "input")

/-- The parts of a unit that have been read. -/
structure FixtureUnit.Parts where
  name : Option String
  rejects : Option (Option String)
  cases : Option (List Case)

/-- Reads a unit. -/
def FixtureUnit.shape : OpenShape FixtureUnit.Parts FixtureUnit where
  expected := "struct Unit"
  known := ["name", "rejects", "cases"]
  start := ⟨none, none, none⟩
  step k st depth t r :=
    if k = "name" then (textValue depth t r).map fun (s, r) => ({ st with name := some s }, r)
    else if k = "rejects" then
      (optionalText depth t r).map fun (s, r) => ({ st with rejects := some s }, r)
    else (listValue Case.shape.read depth t r).map fun (cs, r) => ({ st with cases := some cs }, r)
  finish st others :=
    match st.name with
    | some n => do
      let d ← Definition.definitionsShape.ofMembers others
      return ⟨n, d, st.rejects.getD none, st.cases.getD []⟩
    | none => .error (.missingField "name")

/-- Reads a fixture. -/
def Fixture.shape : SourceShape (Option (List FixtureUnit)) Fixture where
  expected := "struct Fixture"
  known := ["units"]
  start := none
  step _ _ depth t r := (listValue FixtureUnit.shape.read depth t r).map fun (us, r) => (some us, r)
  finish absent
    | some us => .ok ⟨us⟩
    | none => .error (absent "units")

/-- Reads a fixture from text. -/
def Fixture.parse (bytes : Bytes) : Except DefinitionError Fixture :=
  (source Fixture.shape.read bytes).mapError fun f => .badSource f.path f.message

end Conform
