import Conform.Command.Check
import Conform.Command.Options

/-!
# The command line

Two commands: `check` validates documents, `types` lists the types of a file. A command line in any
other form is refused.
-/

namespace Conform.Command

/-- A command. -/
inductive Line where
  | check (c : Check)
  | types (definitions : String)

/-- More to read in the log; may stand anywhere and more than once. -/
def verboseOption : OptionSpec := ⟨"verbose", some 'v', .nothing, true⟩

/-- The file of definitions. -/
def definitionsOption : OptionSpec := ⟨"defs", none, .one, false⟩

/-- The options of `check`. -/
def checkOptions : List OptionSpec := [
  verboseOption, definitionsOption, ⟨"type", none, .one, false⟩, ⟨"input", some 'i', .many, true⟩,
  ⟨"ndjson", none, .nothing, false⟩, ⟨"json-pointer", none, .one, false⟩, ⟨"jq-expr", none, .one, false⟩,
  ⟨"out", some 'o', .one, false⟩]

/-- The options of `types`. -/
def typesOptions : List OptionSpec := [verboseOption, definitionsOption]

/-- The value of an option that names a file; it is never empty. -/
def file? (g : Given) (name : String) : Option String := (g.value? name).filter (· ≠ "")

/-- The check that options describe. -/
def Check.ofOptions? (g : Given) : Option Check := do
  let definitions ← file? g "defs"
  let typeName ← g.value? "type"
  let inputs := g.values "input"
  if inputs.isEmpty || g.value? "out" = some "" then none
  some ⟨definitions, typeName,
    ⟨inputs, g.has "ndjson", g.value? "json-pointer", g.value? "jq-expr"⟩, g.value? "out"⟩

/-- Does the word only ask for more to read in the log? -/
def isVerbose (arg : String) : Bool :=
  match arg.toList with
  | '-' :: '-' :: cs => String.ofList cs = verboseOption.name
  | '-' :: c :: cs => (c :: cs).all (some · == verboseOption.letter)
  | _ => false

/-- The command that a command line describes. -/
def Line.parse? (args : List String) : Option Line :=
  match args.dropWhile isVerbose with
  | "check" :: rest => do return .check (← Check.ofOptions? (← options? checkOptions false rest))
  | "types" :: rest => do return .types (← file? (← options? typesOptions false rest) "defs")
  | _ => none

/-- Runs a command. -/
def Line.run [PatternEngine] [FilterEngine] {m : Type → Type} [Monad m] [FileAccess m] :
    Line → m Outcome
  | .check c => c.run
  | .types d => listTypes d

end Conform.Command
