import Conform.Entries
import Conform.Files.Basic

/-!
# Files in memory

A disk is a tree of folders and files with a working folder in it. A path with a slash in front starts
at the root of the tree, and any other path at the working folder; above the root there is the root.
-/

namespace Conform

/-- A file, or a folder with what stands in it. -/
inductive Tree where
  | file (bytes : Read.Bytes)
  | folder (entries : List (String × Tree))

namespace Tree

/-- What it is. -/
def entry : Tree → Entry
  | .file _ => .file
  | .folder _ => .folder

/-- What stands under names from the root down. -/
def under? : List String → Tree → Option Tree
  | [], t => some t
  | s :: r, .folder es => (Entries.find? s es).bind (under? r)
  | _ :: _, .file _ => none

/-- The tree with `x` under names from the root down, all of them but the last being there. -/
def insert (x : Tree) : List String → Tree → Tree
  | [], _ => x
  | s :: r, .folder es =>
    .folder (Entries.put s (insert x r ((Entries.find? s es).getD (.folder []))) es)
  | _ :: _, .file bytes => .file bytes

/-- The names from the root down that parts of a path lead to, starting under the names `here`. All but
the last must lead to folders. -/
def locate (t : Tree) (here : List String) : List String → Except FileFault (List String)
  | [] => .ok here
  | s :: r =>
    match t.under? here with
    | some (.folder es) =>
      if Files.trivialPart s then locate t here r
      else if s = ".." then locate t here.dropLast r
      else if Entries.has s es then locate t (here ++ [s]) r
      else .error .missing
    | some (.file _) => .error .notFolder
    | none => .error .missing

end Tree

/-- A tree with a working folder. -/
structure Disk where
  root : Tree
  /-- The names from the root down to the working folder. -/
  here : List String

namespace Disk

/-! ## Looking -/

/-- The names that a path starts under. -/
def start (d : Disk) (path : String) : List String := if path.startsWith "/" then [] else d.here

/-- What stands at a path. -/
def at? (path : String) (d : Disk) : Except FileFault Tree :=
  if path.isEmpty then .error .missing
  else do
    let names ← d.root.locate (d.start path) (Files.split path)
    match d.root.under? names with
    | some t => .ok t
    | none => .error .missing

/-- The bytes of a file. -/
def read (path : String) (d : Disk) : Except FileFault Read.Bytes := do
  match ← d.at? path with
  | .file bytes => .ok bytes
  | .folder _ => .error .isFolder

/-- What stands in a folder. -/
def list (path : String) (d : Disk) : Except FileFault (List Listed) := do
  match ← d.at? path with
  | .file _ => .error .notFolder
  | .folder es =>
    .ok (es.filterMap fun (s, t) => if h : Files.isName s then some ⟨s, t.entry, h⟩ else none)

/-! ## Changing -/

/-- The disk with `x` under a name in the folder that parts of a path lead to; `blocks` says what may be
in the way. -/
def place (x : Tree) (blocks : Tree → Option FileFault) (start folder : List String) (name : String)
    (d : Disk) : Except FileFault Disk := do
  let names ← d.root.locate start folder
  match d.root.under? names with
  | some (.folder es) =>
    match (Entries.find? name es).bind blocks with
    | some why => .error why
    | none => .ok { d with root := Tree.insert x (names ++ [name]) d.root }
  | _ => .error .notFolder

/-- Does the part of a path name a folder without giving it a name? -/
def pointsAround (s : String) : Bool := Files.trivialPart s || s = ".."

/-- The disk with one folder more; the folders around it must be there. -/
def makeOne (start folder : List String) (name : String) (d : Disk) : Except FileFault Disk :=
  if pointsAround name then do
    let _ ← d.root.locate start (folder ++ [name])
    .error .alreadyThere
  else place (.folder []) (fun _ => some .alreadyThere) start folder name d

/-- Do the parts of a path lead to a folder? -/
def isFolder (start parts : List String) (d : Disk) : Bool :=
  match d.root.locate start parts with
  | .ok names => (d.root.under? names).any (·.entry = .folder)
  | .error _ => false

/-- The disk with the folder at the end of the parts, which are given last one first. A folder that
is missing on the way is made first. -/
def makeAll (start : List String) : List String → Disk → Except FileFault Disk
  | [], d => .ok d
  | name :: r, d =>
    let excuse (d : Disk) (e : FileFault) : Except FileFault Disk :=
      if d.isFolder start (name :: r).reverse then .ok d else .error e
    match d.makeOne start r.reverse name with
    | .ok d => .ok d
    | .error .missing => do
      let d ← makeAll start r d
      match d.makeOne start r.reverse name with
      | .ok d => .ok d
      | .error e => excuse d e
    | .error e => excuse d e

/-- The disk with the folder at a path. -/
def makeFolder (path : String) (d : Disk) : Except FileFault Disk :=
  makeAll (d.start path) ((Files.split path).filter (!Files.trivialPart ·)).reverse d

/-- What is in the way of a file: a folder, but not another file. -/
def blocksFile : Tree → Option FileFault
  | .folder _ => some .isFolder
  | .file _ => none

/-- The disk with a file at a path. A path that ends with a slash or with points names no file. -/
def write (path : String) (bytes : Read.Bytes) (d : Disk) : Except FileFault Disk :=
  if path.isEmpty then .error .missing
  else
    let parts := Files.split path
    let name := parts.getLast?.getD ""
    if pointsAround name then do
      let _ ← d.root.locate (d.start path) (Files.trimmed parts).dropLast
      .error .isFolder
    else place (.file bytes) blocksFile (d.start path) parts.dropLast name d

end Disk

/-- Files in memory, which a program changes as it runs. -/
abbrev InMemory := StateM Disk

/-- Replaces the disk by the changed one, or keeps it when the change failed. -/
def InMemory.change (f : Disk → Except FileFault Disk) : InMemory (Except FileFault Unit) := fun d =>
  match f d with
  | .ok d' => (.ok (), d')
  | .error e => (.error e, d)

instance : FileAccess InMemory where
  read path := fun d => (d.read path, d)
  entry? path := fun d => ((d.at? path).toOption.map Tree.entry, d)
  list path := fun d => (d.list path, d)
  longest := 4095
  makeFolder path := InMemory.change (·.makeFolder path)
  write path bytes := InMemory.change (·.write path bytes)

end Conform
