import Conform.Definition.Error
import Conform.Files.Glob
import Conform.Filter.Engine

/-!
# What keeps a command from running

Troubles with files, definitions, patterns and filters. None of them is a failure of a document.
-/

namespace Conform

namespace Command

/-- A reason why a command could not run. -/
inductive Trouble where
  | definitionsUnread (file : String) (why : FileFault)
  | definitionsInvalid (file : String) (why : DefinitionError)
  | typeUnknown (name : String) (why : DefinitionError)
  | pattern (why : Glob.Trouble)
  | noMatch (pattern : String)
  | sourceUnread (file : String) (why : FileFault)
  | sourceInvalid (file why : String)
  | lineInvalid (label why : String)
  | nothingSelected (pointer label : String)
  | filter (label : String) (why : Filter.Trouble)
  | folderNotMade (folder : String) (why : FileFault)
  | outputNotWritten (file : String) (why : FileFault)

/-- The wording of a trouble. -/
def Trouble.message : Trouble → String
  | .definitionsUnread f why => "failed to read definitions file " ++ f ++ ": " ++ why.message
  | .definitionsInvalid f why => "invalid definitions in " ++ f ++ ": " ++ why.account
  | .typeUnknown n why => "cannot check against '" ++ n ++ "': " ++ why.message
  | .pattern why => "failed to resolve input file paths: " ++ why.message
  | .noMatch p => "failed to resolve input file paths: glob pattern matched no files: " ++ p
  | .sourceUnread f why => "failed to read source file " ++ f ++ ": " ++ why.message
  | .sourceInvalid f why => "failed to parse JSON source file (" ++ f ++ "): " ++ why
  | .lineInvalid l why => "failed to parse NDJSON line (" ++ l ++ "): " ++ why
  | .nothingSelected p l => "JSON pointer " ++ p ++ " selects nothing in " ++ l
  | .filter l why => "failed to apply jq expression to " ++ l ++ ": " ++ why.message
  | .folderNotMade d why => "failed to create " ++ d ++ ": " ++ why.message
  | .outputNotWritten f why => "failed to write " ++ f ++ ": " ++ why.message

/-- The end of a command: its status, and what it wrote to the two outputs. -/
structure Outcome where
  status : Nat
  out : String
  err : String

/-- The end of a command that could not run, after it had written `err`. -/
def Outcome.stopped (err why : String) : Outcome := ⟨2, "", err ++ "error: " ++ why ++ "\n"⟩

end Command
end Conform
