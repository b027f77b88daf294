import Conform.Files.Path
import Conform.Read.Fault

/-!
# Access to files

What the command line asks of files: their bytes, what stands in a folder, and a way to write. It is
stated for any monad, so that a program runs on files in memory as it runs on those of a machine.
-/

namespace Conform

/-- Why a file could not be read or written. -/
inductive FileFault where
  | missing
  | alreadyThere
  | notFolder
  | isFolder
  /-- The path has too many bytes. -/
  | tooLong
  /-- The bytes are not the text of a file. -/
  | notText
  | other (why : String)
deriving DecidableEq

/-- The wording of a fault. -/
def FileFault.message : FileFault → String
  | .missing => "No such file or directory (os error 2)"
  | .alreadyThere => "File exists (os error 17)"
  | .notFolder => "Not a directory (os error 20)"
  | .isFolder => "Is a directory (os error 21)"
  | .tooLong => "File name too long (os error 36)"
  | .notText => "stream did not contain valid UTF-8"
  | .other why => why

/-- What can stand at a path. -/
inductive Entry where
  | file
  | folder
deriving DecidableEq

/-- Something in a folder. -/
structure Listed where
  name : String
  entry : Entry
  isName : Files.isName name

/-- Access to files. A link is taken for what it leads to. -/
class FileAccess (m : Type → Type) where
  /-- The bytes of a file. -/
  read : String → m (Except FileFault Read.Bytes)
  /-- What stands at a path, if anything does. -/
  entry? : String → m (Option Entry)
  /-- What stands in a folder. -/
  list : String → m (Except FileFault (List Listed))
  /-- The greatest number of bytes that the path of a folder may have for it to be listed. -/
  longest : Nat
  /-- Makes a folder, with the folders around it, unless it is there. -/
  makeFolder : String → m (Except FileFault Unit)
  /-- Writes a file. -/
  write : String → Read.Bytes → m (Except FileFault Unit)

/-- The text that bytes encode. -/
def FileFault.decode (bytes : Read.Bytes) : Except FileFault String :=
  match String.fromUTF8? ⟨bytes.toArray⟩ with
  | some s => .ok s
  | none => .error .notText

/-- The text of a file. -/
def FileAccess.readText {m : Type → Type} [Monad m] [FileAccess m] (path : String) :
    m (Except FileFault String) :=
  return (← FileAccess.read path) >>= FileFault.decode

/-! ## One action after the other -/

section Sequence

variable {m : Type → Type} [Monad m] {ε α β : Type}

/-- Runs `f` on every item, up to the first trouble, and puts the results together. -/
def gather (f : α → m (Except ε (List β))) : List α → m (Except ε (List β))
  | [] => return .ok []
  | a :: r => do
    match ← f a with
    | .error e => return .error e
    | .ok bs =>
      match ← gather f r with
      | .error e => return .error e
      | .ok cs => return .ok (bs ++ cs)

/-- Runs two actions, up to the first trouble, and puts the results together. -/
def andThen (act next : m (Except ε (List β))) : m (Except ε (List β)) := gather id [act, next]

end Sequence

end Conform
