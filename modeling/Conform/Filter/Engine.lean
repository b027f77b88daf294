import Conform.Read.Document

/-!
# Filters

A filter is a program that makes documents of a document. What a program means is the matter of an
engine, which gives the outputs as texts; each of them is read again as a document. The first thing that
goes wrong is the trouble. All that is said about commands holds of every engine.
-/

namespace Conform

/-- What is wrong with a program, with a text for every error. -/
inductive Filter.Fault where
  /-- It does not follow the grammar. -/
  | grammar (errors : List String)
  /-- It uses names that are not known. -/
  | names (errors : List String)

/-- An engine for filters. -/
class FilterEngine where
  /-- What a program makes of a document: the texts of its outputs, up to the first error, for a program
  that comes to an end; or what is wrong with the program. -/
  compile : String → Except Filter.Fault (Json → List (Except String String))

namespace Filter

/-- Why a filter gives no documents. -/
inductive Trouble where
  | program (source : String) (why : Fault)
  /-- The program ended with an error. -/
  | run (why : String)
  /-- The text of an output is no document. -/
  | output (text why : String)

/-- The wording of a fault, one error a line. -/
def Fault.message (source : String) : Fault → String
  | .grammar errors => "\n".intercalate (errors.map (line "parse"))
  | .names errors => "\n".intercalate (errors.map (line "compile"))
where
  /-- The line of an error. -/
  line (stage error : String) : String := "jq " ++ stage ++ " error in `" ++ source ++ "`: " ++ error

/-- The wording of a trouble. -/
def Trouble.message : Trouble → String
  | .program source why => why.message source
  | .run why => "jq runtime error: " ++ why
  | .output text why => "jq produced non-JSON output `" ++ text ++ "`: " ++ why

/-- The document of one output. -/
def document : Except String String → Except Trouble Json
  | .error why => .error (.run why)
  | .ok text =>
    match Json.parse text with
    | .ok j => .ok j
    | .error why => .error (.output text why)

/-- The documents that a program makes of one. -/
def apply [FilterEngine] (source : String) (input : Json) : Except Trouble (List Json) :=
  match FilterEngine.compile source with
  | .error why => .error (.program source why)
  | .ok f => (f input).mapM document

end Filter

end Conform
