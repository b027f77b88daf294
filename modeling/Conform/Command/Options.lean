/-!
# Options of a command line

An option has a long name and perhaps a letter; it takes nothing, one value, or one or more values.
Letters may stand together behind one hyphen, and a value may be joined to its option.
-/

namespace Conform.Command

/-- What an option takes. -/
inductive Takes where
  | nothing
  | one
  | many
deriving DecidableEq

/-- An option that a command knows. -/
structure OptionSpec where
  name : String
  letter : Option Char
  takes : Takes
  /-- May the option stand more than once? -/
  repeatable : Bool

/-- The options that were given, each with its values, and the other words. -/
structure Given where
  options : List (String × List String)
  words : List String

namespace Given

/-- Nothing given. -/
def empty : Given := ⟨[], []⟩

/-- One more option, in front. -/
def addOption (g : Given) (name : String) (values : List String) : Given :=
  { g with options := (name, values) :: g.options }

/-- More words, in front. -/
def addWords (g : Given) (words : List String) : Given := { g with words := words ++ g.words }

/-- How often an option was given. -/
def count (g : Given) (name : String) : Nat := (g.options.filter (·.1 == name)).length

/-- Was the option given? -/
def has (g : Given) (name : String) : Bool := 0 < g.count name

/-- All values of an option, in order. -/
def values (g : Given) (name : String) : List String :=
  (g.options.filter (·.1 == name)).flatMap (·.2)

/-- The value of an option. -/
def value? (g : Given) (name : String) : Option String := (g.values name).head?

end Given

/-- An option whose values are still to come, with those so far, the last one first. -/
abbrev Open := Option (OptionSpec × List String)

/-- What is left to do when a new option starts: the option before it must have a value. -/
def closed (o : Open) (rest : Option Given) : Option Given :=
  match o with
  | none => rest
  | some (_, []) => none
  | some (s, vs) => (·.addOption s.name vs.reverse) <$> rest

/-- The letters behind a hyphen: options that take nothing, and perhaps one that takes the rest or
what comes. -/
def letters (known : List OptionSpec) : List Char → Option (List (String × List String) × Open)
  | [] => some ([], none)
  | c :: r =>
    match known.find? (·.letter == some c) with
    | none => none
    | some s =>
      match s.takes, r with
      | .nothing, r => (fun (given, o) => ((s.name, []) :: given, o)) <$> letters known r
      | _, [] => some ([], some (s, []))
      | _, '=' :: r => some ([(s.name, [String.ofList r])], none)
      | _, r => some ([(s.name, [String.ofList r])], none)

/-- Reads the words of a command line; `none` where one is not understood. -/
def read (known : List OptionSpec) (takesWords : Bool) : Open → List String → Option Given
  | o, [] => closed o (some .empty)
  | o, arg :: rest =>
    match arg.toList with
    | ['-', '-'] =>
      closed o (if rest.isEmpty || takesWords then some (Given.empty.addWords rest) else none)
    | '-' :: '-' :: cs =>
      let name := String.ofList (cs.takeWhile (· ≠ '='))
      match known.find? (·.name == name), cs.dropWhile (· ≠ '=') with
      | none, _ => none
      | some s, [] =>
        closed o (match s.takes with
          | .nothing => (·.addOption s.name []) <$> read known takesWords none rest
          | _ => read known takesWords (some (s, [])) rest)
      | some s, _ :: value =>
        match s.takes with
        | .nothing => none
        | _ => closed o ((·.addOption s.name [String.ofList value]) <$> read known takesWords none rest)
    | '-' :: c :: cs =>
      match letters known (c :: cs) with
      | none => none
      | some (given, next) =>
        closed o ((fun g => given.foldr (fun p g => g.addOption p.1 p.2) g) <$>
          read known takesWords next rest)
    | _ =>
      match o with
      | some (s, vs) =>
        if s.takes = .many then read known takesWords (some (s, arg :: vs)) rest
        else (·.addOption s.name [arg]) <$> read known takesWords none rest
      | none => if takesWords then (·.addWords [arg]) <$> read known takesWords none rest else none

/-- Reads a command line; an option that may stand once stands at most once. -/
def options? (known : List OptionSpec) (takesWords : Bool) (args : List String) : Option Given := do
  let g ← read known takesWords none args
  if known.all fun s => s.repeatable || g.count s.name ≤ 1 then some g else none

end Conform.Command
