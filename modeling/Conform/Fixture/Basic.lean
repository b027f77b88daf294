import Conform.Failure
import Conform.Registry
import Conform.Text.Search

/-!
# Fixtures

A fixture holds units of definitions and the calls made against them, each with what it should give.
Replaying it loads the units one after the other into one registry and reports on every call. A unit may instead be
one that must not load.
-/

namespace Conform

/-- Which failure a call should have. -/
inductive FailSpec where
  /-- Any failure for `true`, none for `false`. -/
  | any (b : Bool)
  /-- A failure of the kind with this name. -/
  | kind (name : String)

/-- What a call should give. -/
inductive Expectation where
  | equal (j : Json)
  | fails (f : FailSpec)

/-- A call of a type. -/
structure Case where
  call : String
  input : Json
  expectation : Expectation

/-- Definitions with the calls made against them. -/
structure FixtureUnit where
  name : String
  definitions : Definitions
  /-- The unit must fail to load, with a message that holds this text. -/
  rejects : Option String
  cases : List Case

/-- Units, to be loaded in order. -/
structure Fixture where
  units : List FixtureUnit

/-- The verdict on a call; `none` is a pass, and a failure has a reason. -/
abbrev Verdict := Option String

/-- A verdict with the label of its call. -/
structure Report where
  label : String
  verdict : Verdict

/-- A failure, with its kind. -/
def Failure.described (f : Failure) : String := f.kind.name ++ ": " ++ f.text

/-- The verdict on a call that should give a certain result. -/
def Expectation.verdict : Expectation → Except Failure Json → Verdict
  | .equal e, .ok got =>
    if got.same e then none else some ("expected " ++ e.compact ++ ", got " ++ got.compact)
  | .equal e, .error f => some ("expected " ++ e.compact ++ ", failed with " ++ f.described)
  | .fails (.any true), .error _ => none
  | .fails (.any false), .ok _ => none
  | .fails (.any false), .error f => some ("expected success, failed with " ++ f.described)
  | .fails (.kind name), .error f =>
    match FailureKind.ofName? name with
    | some k =>
      if k = f.kind then none else some ("expected " ++ k.name ++ ", failed with " ++ f.described)
    | none => some ("unknown error kind `" ++ name ++ "`")
  | .fails _, .ok got => some ("expected failure, got " ++ got.compact)

/-- The verdict on a call of a unit that was loaded. -/
def Case.run (c : Case) (r : Registry) (unit : String) : Verdict :=
  match r.validator unit c.call with
  | .error e => some ("cannot compile: " ++ e.message)
  | .ok v => c.expectation.verdict (v.validateJson c.input)

namespace FixtureUnit

/-- The label of the report on loading. -/
def loadLabel (u : FixtureUnit) : String := u.name ++ "/<load>"

/-- The label of the call with the number `i`. -/
def caseLabel (u : FixtureUnit) (c : Case) (i : Nat) : String :=
  u.name ++ "/" ++ c.call ++ " #" ++ toString i

/-- The verdict on a unit that must not load. -/
def rejection (wanted : String) : Except DefinitionError Scope → Verdict
  | .error e =>
    if Text.holds e.message wanted then none
    else some ("rejected with `" ++ e.message ++ "`, wanted `" ++ wanted ++ "`")
  | .ok _ => some ("loaded, wanted rejection `" ++ wanted ++ "`")

/-- The verdict on a call, given how the unit was loaded and the registry after that. -/
def verdict (u : FixtureUnit) (loaded : Except DefinitionError Scope) (r : Registry) (c : Case) :
    Verdict :=
  match loaded with
  | .error e => some ("unit failed to load: " ++ e.message)
  | .ok _ => c.run r u.name

/-- The reports on a unit whose labels are kept. Calls that are not kept do not run. -/
def reports (u : FixtureUnit) (keep : String → Bool) (loaded : Except DefinitionError Scope)
    (r : Registry) : List Report :=
  match u.rejects with
  | some wanted => if keep u.loadLabel then [⟨u.loadLabel, rejection wanted loaded⟩] else []
  | none => u.cases.zipIdx.filterMap fun (c, i) =>
      if keep (u.caseLabel c i) then some ⟨u.caseLabel c i, u.verdict loaded r c⟩ else none

end FixtureUnit

namespace Fixture

variable [PatternEngine]

/-- Replays units on a registry, which goes from one unit to the next. -/
def replay (keep : String → Bool) : Registry → List FixtureUnit → List Report
  | _, [] => []
  | r, u :: us =>
    let (loaded, r) := r.load u.name u.definitions
    u.reports keep loaded r ++ replay keep r us

/-- Replays a fixture on an empty registry; `keep` says which labels are reported. -/
def run (f : Fixture) (keep : String → Bool) : List Report := replay keep (.empty none) f.units

end Fixture
end Conform
