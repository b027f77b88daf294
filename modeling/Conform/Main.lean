import Conform.Command.Line
import Conform.Command.Replay
import Conform.Filter.Run
import Conform.Pattern.Parser

/-!
# The programs

The program checks documents; started under the name `replay` it replays fixtures. The status is 2
for a command line that is not understood.
-/

namespace Conform

/-- The fault that an error of the machine stands for. -/
def FileFault.ofError : IO.Error → FileFault
  | .noFileOrDirectory _ _ _ => .missing
  | .alreadyExists _ _ _ => .alreadyThere
  | .inappropriateType _ _ why =>
    if why = "not a directory" then .notFolder
    else if why = "is a directory" then .isFolder
    else .other why
  | e => .other (toString e)

/-- Runs an action and keeps its error as a fault. -/
def FileFault.guarding {α : Type} (act : IO α) : IO (Except FileFault α) := do
  try return .ok (← act)
  catch e => return .error (.ofError e)

/-- What stands at a path of the machine. A link that leads nowhere is a file. -/
def machineEntry? (path : String) : IO (Option Entry) := do
  let place := (← IO.currentDir) / path
  if ← place.isDir then return some .folder
  match ← FileFault.guarding place.symlinkMetadata with
  | .ok _ => return some .file
  | .error _ => return none

/-- What stands in a folder of the machine. -/
def machineList (path : String) : IO (Except FileFault (List Listed)) :=
  FileFault.guarding do
    let found ← ((← IO.currentDir) / path).readDir
    found.toList.filterMapM fun e => do
      if h : Files.isName e.fileName then
        return some ⟨e.fileName, if ← e.path.isDir then .folder else .file, h⟩
      else return none

instance : FileAccess IO where
  read path := do
    if (← machineEntry? path) == some .folder then return .error .isFolder
    FileFault.guarding do return (← IO.FS.readBinFile path).toList
  entry? := machineEntry?
  list := machineList
  longest := 4095
  makeFolder path := FileFault.guarding do
    if path ≠ "" then IO.FS.createDirAll path
  write path bytes := FileFault.guarding (IO.FS.writeBinFile path ⟨bytes.toArray⟩)

/-- The end of the program that goes by `name`. -/
def runProgram (name : String) (args : List String) : IO (Option Command.Outcome) :=
  if name = "replay" then (Command.Replay.parse? args).mapM (·.run)
  else (Command.Line.parse? args).mapM (·.run)

end Conform

/-- Runs the program and passes on its outputs and status. -/
def main (args : List String) : IO UInt32 := do
  match ← Conform.runProgram ((← IO.appPath).fileStem.getD "") args with
  | none =>
    IO.eprintln "usage: check --defs FILE --type NAME --input FILE... | types --defs FILE"
    return 2
  | some o =>
    IO.print o.out
    IO.eprint o.err
    return o.status.toUInt32
