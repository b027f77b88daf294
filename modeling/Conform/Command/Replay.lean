import Conform.Command.Options
import Conform.Command.Trouble
import Conform.Fixture.Source

/-!
# Replaying fixtures

Fixtures are read and replayed one file after the other, and every report is a line. The status says
whether all verdicts were passes.
-/

namespace Conform.Command

/-- A run over fixtures. -/
structure Replay where
  fixtures : List String
  /-- An expression that the labels of reports match. -/
  filter : Option String

namespace Replay

/-- The run that a command line describes. -/
def parse? (args : List String) : Option Replay := do
  let g ← options? [⟨"filter", none, .one, false⟩] true args
  if g.words.isEmpty || g.words.any (· = "") then none
  some ⟨g.words, g.value? "filter"⟩

/-- Why a run ended early. -/
inductive Trouble where
  | filter (why : String)
  | unread (file : String) (why : FileFault)
  | invalid (file : String) (why : DefinitionError)

/-- The wording of a trouble. -/
def Trouble.message : Trouble → String
  | .filter why => "invalid --filter regex: " ++ why
  | .unread f why => "failed to read fixture " ++ f ++ ": " ++ why.message
  | .invalid f why => "invalid fixture " ++ f ++ ": " ++ why.message

/-- The labels that a run keeps, or what is wrong with the expression for them. -/
def keep? [PatternEngine] (filter : Option String) : Except String (String → Bool) :=
  match filter with
  | none => .ok fun _ => true
  | some s => (Pattern.read s).map Pattern.finds

/-- The line of a report. -/
def line (r : Report) : String :=
  match r.verdict with
  | none => "✅ " ++ r.label ++ "\n"
  | some why => "❌ " ++ r.label ++ " " ++ why ++ "\n"

/-- The lines of a file. -/
def block (file : String) (rs : List Report) : String :=
  "—— " ++ file ++ "\n" ++ String.join (rs.map line)

/-- The number of passes. -/
def passes (rs : List Report) : Nat := (rs.filter (·.verdict.isNone)).length

section Run

variable [PatternEngine] {m : Type → Type} [Monad m] [FileAccess m]

/-- The fixture in a file. -/
def load (file : String) : m (Except Trouble Fixture) := do
  match ← FileAccess.read file with
  | .error why => return .error (.unread file why)
  | .ok bytes =>
    match Fixture.parse bytes with
    | .error why => return .error (.invalid file why)
    | .ok f => return .ok f

/-- Replays files, after `said` was written for the reports `before`. -/
def files (keep : String → Bool) (said : String) (before : List Report) : List String → m Outcome
  | [] =>
    let failed := before.length - passes before
    return ⟨if failed = 0 then 0 else 1, "",
      said ++ toString (passes before) ++ " passed, " ++ toString failed ++ " failed\n"⟩
  | file :: rest => do
    match ← load file with
    | .error t => return .stopped said t.message
    | .ok f =>
      let rs := f.run keep
      files keep (said ++ block file rs) (before ++ rs) rest

/-- Replays fixtures. -/
def run (r : Replay) : m Outcome :=
  match keep? r.filter with
  | .error why => return .stopped "" (Trouble.filter why).message
  | .ok keep => files keep "" [] r.fixtures

end Run
end Replay
end Conform.Command
