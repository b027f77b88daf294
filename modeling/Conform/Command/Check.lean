import Conform.Command.Documents
import Conform.Files.Path
import Conform.Registry

/-!
# Checking documents

A check loads definitions, finds the type, loads all documents, and only then validates them. The
canonical form of every valid document is written, every failure is reported, and the status says
whether all documents were valid.
-/

namespace Conform.Command

/-- A check of documents against a type. -/
structure Check where
  definitions : String
  typeName : String
  sources : Sources
  /-- The file for the output, instead of the standard output. -/
  out : Option String

/-- The result of validating a document. -/
structure Checked where
  label : String
  result : Except Failure Json

section Run

variable [PatternEngine] [FilterEngine] {m : Type → Type} [Monad m] [FileAccess m]

/-- The scope of a file of definitions; the unit has the name of the file without its extension. -/
def loadDefinitions (file : String) : m (Except Trouble Scope) := do
  match ← FileAccess.readText file with
  | .error why => return .error (.definitionsUnread file why)
  | .ok text =>
    let unit := ((Files.name? file).map Files.stem).getD "defs"
    match (Registry.empty none).loadSource unit (Read.bytesOf text) with
    | (.error why, _) => return .error (.definitionsInvalid file why)
    | (.ok scope, _) => return .ok scope

namespace Check

/-- What has to be there before the first document is validated. -/
def prepare (c : Check) : m (Except Trouble (Validator × List Document)) := do
  match ← loadDefinitions c.definitions with
  | .error t => return .error t
  | .ok scope =>
    match scope.compile c.typeName with
    | .error why => return .error (.typeUnknown c.typeName why)
    | .ok v =>
      match ← c.sources.documents with
      | .error t => return .error t
      | .ok docs => return .ok (v, docs)

end Check

end Run

/-- Validates every document. -/
def checkAll (v : Validator) (docs : List Document) : List Checked :=
  docs.map fun d => ⟨d.label, v.validateJson d.value⟩

namespace Checked

/-- The canonical form of a valid document. -/
def valid? (c : Checked) : Option Json :=
  match c.result with
  | .ok j => some j
  | .error _ => none

/-- The lines that report a failure, with its causes. -/
def report (c : Checked) : String :=
  match c.result with
  | .ok _ => ""
  | .error f =>
    "✗ " ++ c.label ++ " " ++ f.text ++ "\n" ++
      String.join (f.causes.map fun f => "    caused by: " ++ f.text ++ "\n")

end Checked

/-- A document as text: on one line, or with one member a line. -/
def render (oneLine : Bool) (j : Json) : String := if oneLine then j.compact else j.pretty

/-- The canonical forms of the valid documents, one after the other. -/
def output (oneLine : Bool) (rs : List Checked) : String :=
  "\n".intercalate ((rs.filterMap Checked.valid?).map (render oneLine))

/-- The reports of all failures. -/
def reports (rs : List Checked) : String := String.join (rs.map Checked.report)

/-- The number of valid documents. -/
def validCount (rs : List Checked) : Nat := (rs.filterMap Checked.valid?).length

/-- The last line of a run. -/
def summary (rs : List Checked) : String :=
  (if validCount rs = rs.length then "✓ " else "✗ ") ++
    toString (validCount rs) ++ " of " ++ toString rs.length ++
    " documents valid\n"

section Run

variable [PatternEngine] [FilterEngine] {m : Type → Type} [Monad m] [FileAccess m]

/-- Writes a file, in a folder that is made if need be. -/
def writeFile (file text : String) : m (Except Trouble Unit) := do
  let write : m (Except Trouble Unit) := do
    match ← FileAccess.write file (Read.bytesOf text) with
    | .error why => return .error (.outputNotWritten file why)
    | .ok () => return .ok ()
  match Files.parent? file with
  | none => write
  | some folder =>
    match ← FileAccess.makeFolder folder with
    | .error why => return .error (.folderNotMade folder why)
    | .ok () => write

namespace Check

/-- Writes the output of a run and says how it ended. -/
def finish (c : Check) (rs : List Checked) : m Outcome := do
  let text := output c.sources.lines rs
  let status := if validCount rs = rs.length then 0 else 1
  match c.out with
  | none => return ⟨status, if text.isEmpty then "" else text ++ "\n", reports rs ++ summary rs⟩
  | some file =>
    match ← writeFile file text with
    | .error t => return .stopped (reports rs) t.message
    | .ok () => return ⟨status, "", reports rs ++ summary rs⟩

/-- Runs a check. -/
def run (c : Check) : m Outcome := do
  match ← c.prepare with
  | .error t => return .stopped "" t.message
  | .ok (v, docs) => c.finish (checkAll v docs)

end Check

/-- Lists the types that a file defines. -/
def listTypes (file : String) : m Outcome := do
  match ← loadDefinitions file with
  | .error t => return .stopped "" t.message
  | .ok scope => return ⟨0, String.join (scope.names.map (· ++ "\n")), ""⟩

end Run
end Conform.Command
