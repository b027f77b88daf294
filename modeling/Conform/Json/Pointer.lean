import Conform.Json.Basic
import Conform.Text.Digit

/-!
# JSON pointers

A pointer names a part of a document by the names and places on the way to it, each after a slash.
In a name `~1` stands for a slash and `~0` for a tilde.
-/

namespace Conform.Json

/-- The name that an escaped one stands for. -/
def unescaped : List Char → List Char
  | '~' :: '1' :: r => '/' :: unescaped r
  | '~' :: '0' :: r => '~' :: unescaped r
  | c :: r => c :: unescaped r
  | [] => []

/-- The place that digits name; a zero in front of other digits is refused. -/
def place? (cs : List Char) : Option Nat :=
  if cs.isEmpty || !cs.all Char.isDigit then none
  else if cs.head? = some '0' && cs.length ≠ 1 then none
  else some (Text.natOfDigits cs)

/-- The names of a pointer after its first slash, still escaped. -/
def pointerNames : List Char → List (List Char)
  | [] => [[]]
  | c :: r =>
    if c = '/' then [] :: pointerNames r
    else match pointerNames r with
      | n :: ns => (c :: n) :: ns
      | [] => [[c]]

/-- One step into a document. -/
def child? (name : List Char) : Json → Option Json
  | .obj m => Entries.find? (String.ofList name) m
  | .arr xs => (place? name).bind (xs[·]?)
  | _ => none

/-- The part of a document that names lead to. -/
def descend? : List (List Char) → Json → Option Json
  | [], j => some j
  | n :: ns, j => (child? (unescaped n) j).bind (descend? ns)

/-- The part of a document that a pointer names. The empty pointer names the whole, and any other
starts with a slash. -/
def pointer? (p : String) (j : Json) : Option Json :=
  match p.toList with
  | [] => some j
  | '/' :: r => descend? (pointerNames r) j
  | _ => none

end Conform.Json
