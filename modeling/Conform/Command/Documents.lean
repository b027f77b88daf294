import Conform.Command.Trouble
import Conform.Json.Pointer
import Conform.Text.Blank

/-!
# The documents of a run

Inputs are files or patterns of files. A file holds one document, or one a line. A pointer selects a
part of each document, and a filter makes documents of it. The label says where a document comes
from.
-/

namespace Conform.Command

/-- A document with the place it comes from. -/
structure Document where
  label : String
  value : Json

/-- Where documents come from. -/
structure Sources where
  /-- Files or patterns of files. -/
  inputs : List String
  /-- Is every line a document of its own? -/
  lines : Bool
  pointer : Option String
  filter : Option String

/-- The lines of a text; a line ends with a line feed, which may follow a carriage return. -/
def lines (s : String) : List String := go [] s.toList
where
  /-- The lines, given the characters of the line at hand, last one first. -/
  go (seen : List Char) : List Char → List String
    | [] => if seen.isEmpty then [] else [String.ofList seen.reverse]
    | c :: r =>
      if c = '\n' then
        let line := match seen with
          | '\r' :: q => q
          | q => q
        String.ofList line.reverse :: go [] r
      else go (c :: seen) r

/-- The lines that are not blank, counted from 1. -/
def numbered (s : String) : List (Nat × String) :=
  ((lines s).zipIdx 1).filterMap fun (line, i) => if Text.allBlank line then none else some (i, line)

namespace Sources

variable [FilterEngine]

/-- The documents that one document gives: first the pointer, then the filter. More than one have a
number in their labels. -/
def select (s : Sources) (d : Document) : Except Trouble (List Document) := do
  let value ← match s.pointer with
    | none => .ok d.value
    | some p =>
      match d.value.pointer? p with
      | some j => .ok j
      | none => .error (.nothingSelected p d.label)
  match s.filter with
  | none => return [⟨d.label, value⟩]
  | some f =>
    match Filter.apply f value with
    | .error why => .error (.filter d.label why)
    | .ok [j] => return [⟨d.label, j⟩]
    | .ok js => return js.zipIdx.map fun (j, i) => ⟨d.label ++ "#" ++ toString i, j⟩

/-- The document on a line. -/
def ofLine (file : String) (line : Nat × String) : Except Trouble Document :=
  let label := file ++ ":" ++ toString line.1
  match Json.parse line.2 with
  | .ok j => .ok ⟨label, j⟩
  | .error why => .error (.lineInvalid label why)

/-- The document in a file. -/
def ofFile (file text : String) : Except Trouble Document :=
  match Json.parse text with
  | .ok j => .ok ⟨file, j⟩
  | .error why => .error (.sourceInvalid file why)

/-- The documents in a file. -/
def ofText (s : Sources) (file text : String) : Except Trouble (List Document) :=
  if s.lines then List.flatten <$> (numbered text).mapM fun line => do s.select (← ofLine file line)
  else do s.select (← ofFile file text)

section Files

variable {m : Type → Type} [Monad m] [FileAccess m]

/-- The files that an input names. -/
def files (input : String) : m (Except Trouble (List String)) := do
  if Glob.isPattern input then
    match ← Glob.expand input with
    | .error why => return .error (.pattern why)
    | .ok [] => return .error (.noMatch input)
    | .ok fs => return .ok fs
  else return .ok [input]

/-- The documents in a file that is still to be read. -/
def load (s : Sources) (file : String) : m (Except Trouble (List Document)) := do
  match ← FileAccess.readText file with
  | .error why => return .error (.sourceUnread file why)
  | .ok text => return s.ofText file text

/-- All documents, in the order of the inputs. The files are found before the first one is read. -/
def documents (s : Sources) : m (Except Trouble (List Document)) := do
  match ← gather files s.inputs with
  | .error t => return .error t
  | .ok fs => gather s.load fs

end Files
end Sources
end Conform.Command
