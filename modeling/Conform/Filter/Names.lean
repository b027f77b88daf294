import Conform.Filter.Builtin
import Conform.Filter.Standard

/-!
# The names in a program

A program may use a variable where it is bound, a filter where it is defined, with the right number
of arguments, and the standard filters everywhere. Loops have a number of arguments too.
-/

namespace Conform.Filter

/-- The names that are known at a place of a program. -/
structure Names where
  vars : List String
  /-- Filters with their numbers of arguments. -/
  filters : List (String × Nat)

namespace Names

/-- The names with one more variable. -/
def addVar (s : Names) (x : String) : Names := { s with vars := x :: s.vars }

/-- The names with one more filter. -/
def addFilter (s : Names) (name : String) (arity : Nat) : Names :=
  { s with filters := (name, arity) :: s.filters }

/-- The names inside a definition: its own, and those of its parameters. -/
def enter (s : Names) (name : String) (params : List Param) : Names :=
  params.foldl (fun s p => match p with
    | .value x => s.addVar x
    | .filter f => s.addFilter f 0) (s.addFilter name params.length)

/-- Is there a filter with that name and number of arguments? There is none in a module. -/
def hasFilter (s : Names) (name : String) (arity : Nat) : Bool :=
  !name.contains ':' && ((name, arity) ∈ s.filters || (Builtin.find? name arity).isSome)

mutual

/-- Are all names in the term known? -/
def covers (s : Names) : Term → Bool
  | .identity | .number _ => true
  | .text ps => coversPieces s ps
  | .array t => coversOption s t
  | .object es => coversEntries s es
  | .negative t => covers s t
  | .pipe l r | .comma l r | .update l r | .assign _ l r | .alternative l r | .both l r | .either l r
  | .compare _ l r | .math _ l r => covers s l && covers s r
  | .bind l x r => covers s l && covers (s.addVar x) r
  | .branch c t e => covers s c && covers s t && coversOption s e
  | .attempt t h => covers s t && coversOption s h
  | .loop k xs x args => k.takes args.length && covers s xs && coversLoop s x args
  | .define (.mk name params body) t =>
    covers (s.enter name params) body && covers (s.addFilter name params.length) t
  | .call name args => s.hasFilter name args.length && coversAll s args
  | .var x => x ∈ s.vars
  | .path t steps => covers s t && coversSteps s steps

/-- Are all names in the term, if any, known? -/
def coversOption (s : Names) : Option Term → Bool
  | none => true
  | some t => covers s t

/-- Are all names in the terms known? -/
def coversAll (s : Names) : List Term → Bool
  | [] => true
  | t :: r => covers s t && coversAll s r

/-- Are all names in the arguments of a loop known? The first does not see the name of the loop. -/
def coversLoop (s : Names) (x : String) : List Term → Bool
  | [] => true
  | t :: r => covers s t && coversAll (s.addVar x) r

/-- Are all names in the pieces known? -/
def coversPieces (s : Names) : List Piece → Bool
  | [] => true
  | .chars _ :: r => coversPieces s r
  | .hole t :: r => covers s t && coversPieces s r

/-- Are all names in the entries known? -/
def coversEntries (s : Names) : List (Term × Term) → Bool
  | [] => true
  | (k, t) :: r => covers s k && covers s t && coversEntries s r

/-- Are all names in the steps known? -/
def coversSteps (s : Names) : List (Step × Bool) → Bool
  | [] => true
  | (.index t, _) :: r => covers s t && coversSteps s r
  | (.slice lo hi, _) :: r => coversOption s lo && coversOption s hi && coversSteps s r
  | (.each, _) :: r => coversSteps s r

end

/-- The names of the standard filters. -/
def standard : Names := ⟨[], Filter.standard.map fun d => (d.name, d.params.length)⟩

end Names
end Conform.Filter
