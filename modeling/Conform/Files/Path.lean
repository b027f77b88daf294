/-!
# Paths of files

A path is a text with slashes between its parts. Empty parts and single points say nothing, except a
point that stands first.
-/

namespace Conform.Files

/-- The parts between slashes, empty ones too. -/
def split (path : String) : List String := go [] path.toList
where
  /-- The parts, given the characters of the part at hand, last one first. -/
  go (seen : List Char) : List Char → List String
    | [] => [String.ofList seen.reverse]
    | c :: r => if c = '/' then String.ofList seen.reverse :: go [] r else go (c :: seen) r

/-- Can the text be the name of something in a folder? It says something, does not point up, and holds no
slash. -/
def isName (s : String) : Bool := s ≠ "" && s ≠ "." && s ≠ ".." && !s.toList.contains '/'

/-- A part that says nothing. -/
def trivialPart (s : String) : Bool := s = "" || s = "."

/-- The parts up to the last one that says something; the first part always stays. -/
def trimmed : List String → List String
  | [] => []
  | s :: r => s :: (r.reverse.dropWhile trivialPart).reverse

/-- The path without its last part, if it has one. -/
def parent? (path : String) : Option String :=
  match trimmed (split path) with
  | [] | [""] => none
  | [_] => some ""
  | parts =>
    match trimmed parts.dropLast with
    | [""] => some "/"
    | ps => some ("/".intercalate ps)

/-- The last part of a path, unless it points up or at the path before it. -/
def name? (path : String) : Option String :=
  match (trimmed (split path)).getLast? with
  | some s => if s = "" || s = "." || s = ".." then none else some s
  | none => none

/-- The name without its last extension; a point in front starts no extension. -/
def stem (name : String) : String :=
  let before := (name.toList.reverse.dropWhile (· ≠ '.')).drop 1
  if before.isEmpty then name else String.ofList before.reverse

/-- A path with one more part. -/
def join (path part : String) : String :=
  if path.isEmpty || path.endsWith "/" then path ++ part else path ++ "/" ++ part

example : stem "my.defs.json" = "my.defs" := by decide
example : stem ".hidden" = ".hidden" := by decide

end Conform.Files
