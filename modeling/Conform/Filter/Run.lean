import Conform.Filter.Engine
import Conform.Filter.Eval
import Conform.Filter.Names

/-!
# The filters of the program

The engine of the program: a text is read as a term, its names are checked, and it runs on the document.
-/

namespace Conform.Filter

/-- The steps that one program may nest. One that nests more ends with an error. -/
def nesting : Nat := 1000000000000

/-- The text of an output, or of an error. -/
def outputText : Output → Except String String
  | .ok d => .ok d.text
  | .error (.error d) => .error d.text
  | .error .exhausted => .error "too many steps"

/-- The engine of the program. -/
instance : FilterEngine where
  compile source :=
    match Term.parse? source with
    | none => .error (.grammar ["unexpected token"])
    | some t =>
      if Names.standard.covers t then
        .ok fun j => (eval nesting (.ofDefinitions standard) t (.ofJson j)).toList.map outputText
      else .error (.names ["undefined name"])

end Conform.Filter
