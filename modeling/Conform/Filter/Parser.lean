import Conform.Filter.Term
import Conform.Filter.Token

/-!
# Reading filter programs

A term is a chain of atoms with operators between them. The chain is read first and then grouped
level by level, from the pipe, which binds least, to the remainder. An atom is a simple filter with
the question marks and path steps that follow it. A word that starts no other atom is a call, also
where it means something in another place.
-/

namespace Conform.Filter

/-- What stands between two atoms. -/
inductive Operator where
  | pipe
  | bind (name : String)
  | comma
  | update
  | assign (how : Assign)
  | alternative
  | either
  | both
  | compare (r : Relation)
  | math (op : Math)

namespace Operator

/-- How tightly the operator binds. -/
def level : Operator → Nat
  | .pipe | .bind _ => 0
  | .comma => 1
  | .update | .assign _ => 2
  | .alternative => 3
  | .either => 4
  | .both => 5
  | .compare .eq | .compare .ne => 6
  | .compare _ => 7
  | .math .add | .math .sub => 8
  | .math .mul | .math .div => 9
  | .math .rem => 10

/-- Pipes and updates group from the right. -/
def fromRight (level : Nat) : Bool := level = 0 || level = 2

/-- The term of an operator and its two sides. -/
def join : Operator → Term → Term → Term
  | .pipe, l, r => .pipe l r
  | .bind x, l, r => .bind l x r
  | .comma, l, r => .comma l r
  | .update, l, r => .update l r
  | .assign a, l, r => .assign a l r
  | .alternative, l, r => .alternative l r
  | .either, l, r => .either l r
  | .both, l, r => .both l r
  | .compare c, l, r => .compare c l r
  | .math m, l, r => .math m l r

/-- A chain of atoms, each after the operator before it. -/
abbrev Chain := List (Operator × Term)

/-- Cuts a chain at the operators of one level: what stands before the first, and for each the atom
after it with the chain up to the next. -/
def runs (level : Nat) : Chain → Chain × List (Operator × Term × Chain)
  | [] => ([], [])
  | (op, t) :: r =>
    let (run, groups) := runs level r
    if op.level = level then ([], (op, t, run) :: groups) else ((op, t) :: run, groups)

/-- Joins terms at one level from the left. -/
def joinLeft : Term → List (Operator × Term) → Term
  | t, [] => t
  | t, (op, u) :: r => joinLeft (op.join t u) r

/-- Joins terms at one level from the right. -/
def joinRight : Term → List (Operator × Term) → Term
  | t, [] => t
  | t, (op, u) :: r => op.join t (joinRight u r)

/-- Groups a chain; `k` levels are left, the last of them the tightest. -/
def group : Nat → Term → Chain → Term
  | 0, t, _ => t
  | k + 1, t, c =>
    let level := 10 - k
    let (run, groups) := runs level c
    let first := group k t run
    let others := groups.map fun (op, u, c) => (op, group k u c)
    if fromRight level then joinRight first others else joinLeft first others

end Operator

/-! ## Tokens -/

/-- A reader of tokens. -/
abbrev Reader := StateT (List Token) Option

namespace Reader

/-- Refuses the program. -/
def refuse {α : Type} : Reader α := fun _ => none

/-- The next token, which stays. -/
def peek : Reader (Option Token) := fun ts => some (ts.head?, ts)

/-- The next token. -/
def next : Reader Token
  | t :: r => some (t, r)
  | [] => none

/-- Takes the token if it is next. -/
def accept (t : Token) : Reader Bool := fun ts =>
  match ts with
  | u :: r => if u = t then some (true, r) else some (false, ts)
  | [] => some (false, [])

/-- Takes the token, which must be next. -/
def expect (t : Token) : Reader Unit := do
  if !(← accept t) then refuse

/-- Any number of question marks; was there one? -/
def optional : Reader Bool := fun ts =>
  let rest := ts.dropWhile (· = .symbol "?")
  some (rest.length < ts.length, rest)

/-- The name of a variable. -/
def varName : Reader String := do
  match ← next with
  | .var x => return x
  | _ => refuse

/-- The operator that a symbol stands for. -/
def symbolOperator? : String → Option Operator
  | "|" => some .pipe
  | "," => some .comma
  | "|=" => some .update
  | "=" => some (.assign .set)
  | "+=" => some (.assign (.math .add))
  | "-=" => some (.assign (.math .sub))
  | "*=" => some (.assign (.math .mul))
  | "/=" => some (.assign (.math .div))
  | "%=" => some (.assign (.math .rem))
  | "//=" => some (.assign .alternative)
  | "//" => some .alternative
  | "==" => some (.compare .eq)
  | "!=" => some (.compare .ne)
  | "<" => some (.compare .lt)
  | "<=" => some (.compare .le)
  | ">" => some (.compare .gt)
  | ">=" => some (.compare .ge)
  | "+" => some (.math .add)
  | "-" => some (.math .sub)
  | "*" => some (.math .mul)
  | "/" => some (.math .div)
  | "%" => some (.math .rem)
  | _ => none

/-- The next operator, if there is one; a comma counts only where `commas` allows it. -/
def operator? (commas : Bool) : Reader (Option Operator) := do
  match ← peek with
  | some (.word "and") => let _ ← next; return some .both
  | some (.word "or") => let _ ← next; return some .either
  | some (.word "as") =>
    let _ ← next
    let x ← varName
    expect (.symbol "|")
    return some (.bind x)
  | some (.symbol s) =>
    if s = "," && !commas then return none
    match symbolOperator? s with
    | some op => let _ ← next; return some op
    | none => return none
  | _ => return none

/-- A text as a term. -/
def textTerm (s : String) : Term := .text [.chars s]

/-- The step to a member. -/
def member (s : String) : Step := .index (textTerm s)

/-- A term with path steps after it. -/
def withSteps (t : Term) : List (Step × Bool) → Term
  | [] => t
  | steps => .path t steps

/-- A parameter of a definition. -/
def param : Reader Param := do
  match ← next with
  | .word s => return .filter s
  | .var s => return .value s
  | _ => refuse

/-- Parameters up to the closing bracket. -/
def params : Nat → Reader (List Param)
  | 0 => refuse
  | n + 1 => do
    let p ← param
    if ← accept (.symbol ";") then return p :: (← params n)
    expect (.closing ')')
    return [p]

/-! ## Terms -/

mutual

/-- A chain of atoms. -/
def term (commas : Bool) : Nat → Reader Term
  | 0 => refuse
  | n + 1 => do
    let head ← atom n
    let chain ← operators commas n
    return Operator.group 11 head chain

/-- The operators and atoms after the first atom. -/
def operators (commas : Bool) : Nat → Reader Operator.Chain
  | 0 => refuse
  | n + 1 => do
    match ← operator? commas with
    | none => return []
    | some op =>
      let t ← atom n
      return (op, t) :: (← operators commas n)

/-- A simple filter with the question marks and steps after it. -/
def atom : Nat → Reader Term
  | 0 => refuse
  | n + 1 => do
    let t ← simple n
    let t := if ← optional then .attempt t none else t
    return withSteps t (← steps n)

/-- A simple filter. -/
def simple : Nat → Reader Term
  | 0 => refuse
  | n + 1 => do
    match ← next with
    | .symbol "-" => return .negative (← atom n)
    | .symbol ".." => return .call "recurse" []
    | .symbol "." =>
      match ← peek with
      | some .textStart =>
        let _ ← next
        let key ← pieces n
        let q ← optional
        return .path .identity ((.index (.text key), q) :: (← steps n))
      | _ => return .identity
    | .field s =>
      let q ← optional
      return .path .identity ((member s, q) :: (← steps n))
    | .var x => return .var x
    | .number s => return .number s
    | .textStart => return .text (← pieces n)
    | .format s =>
      if ← accept .textStart then
        let ps ← pieces n
        return .text (ps.map fun
          | .hole t => .hole (.pipe t (.call ("@" ++ s) []))
          | p => p)
      else return .call ("@" ++ s) []
    | .opening '(' => do
      let t ← term true n
      expect (.closing ')')
      return t
    | .opening '[' =>
      if ← accept (.closing ']') then return .array none
      let t ← term true n
      expect (.closing ']')
      return .array (some t)
    | .opening '\x7b' =>
      return .object (← entries n)
    | .word "def" =>
      let d ← definition n
      return .define d (← term true n)
    | .word "if" => branches n
    | .word "try" =>
      let t ← atom n
      if ← accept (.word "catch") then return .attempt t (some (← atom n))
      return .attempt t none
    | .word "reduce" => loop .reduce n
    | .word "foreach" => loop .foreach n
    | .word "label" | .word "break" => refuse
    | .word s => return .call s (← arguments? n)
    | _ => refuse

/-- The condition and branches of `if`, up to its end. -/
def branches : Nat → Reader Term
  | 0 => refuse
  | n + 1 => do
    let c ← term true n
    expect (.word "then")
    let t ← term true n
    match ← next with
    | .word "elif" => return .branch c t (some (← branches n))
    | .word "else" =>
      let e ← term true n
      expect (.word "end")
      return .branch c t (some e)
    | .word "end" => return .branch c t none
    | _ => refuse

/-- A loop after its keyword. -/
def loop (kind : Loop) : Nat → Reader Term
  | 0 => refuse
  | n + 1 => do
    let xs ← atom n
    expect (.word "as")
    let x ← varName
    return .loop kind xs x (← arguments? n)

/-- Arguments in brackets, if there are any. -/
def arguments? : Nat → Reader (List Term)
  | 0 => refuse
  | n + 1 => do
    if ← accept (.opening '(') then arguments n else return []

/-- Arguments up to the closing bracket. -/
def arguments : Nat → Reader (List Term)
  | 0 => refuse
  | n + 1 => do
    let t ← term true n
    if ← accept (.symbol ";") then return t :: (← arguments n)
    expect (.closing ')')
    return [t]

/-- A definition after its keyword. -/
def definition : Nat → Reader Definition
  | 0 => refuse
  | n + 1 => do
    match ← next with
    | .word s =>
      let ps ← if ← accept (.opening '(') then params n else pure []
      expect (.symbol ":")
      let body ← term true n
      expect (.symbol ";")
      return .mk s ps body
    | _ => refuse

/-- The inside of a text, up to its end. -/
def pieces : Nat → Reader (List Piece)
  | 0 => refuse
  | n + 1 => do
    match ← next with
    | .textEnd => return []
    | .chars s => return .chars s :: (← pieces n)
    | .holeStart =>
      let t ← term true n
      expect .holeEnd
      return .hole t :: (← pieces n)
    | _ => refuse

/-- The steps of a path. -/
def steps : Nat → Reader (List (Step × Bool))
  | 0 => refuse
  | n + 1 => do
    match ← peek with
    | some (.field s) =>
      let _ ← next
      let q ← optional
      return (member s, q) :: (← steps n)
    | some (.opening '[') =>
      let _ ← next
      let s ← bracket n
      let q ← optional
      return (s, q) :: (← steps n)
    | some (.symbol ".") =>
      let _ ← next
      match ← next with
      | .textStart =>
        let key ← pieces n
        let q ← optional
        return (.index (.text key), q) :: (← steps n)
      | _ => refuse
    | _ => return []

/-- A step in brackets, up to the closing one. -/
def bracket : Nat → Reader Step
  | 0 => refuse
  | n + 1 => do
    if ← accept (.closing ']') then return .each
    if ← accept (.symbol ":") then
      let hi ← term true n
      expect (.closing ']')
      return .slice none (some hi)
    let lo ← term true n
    if ← accept (.symbol ":") then
      if ← accept (.closing ']') then return .slice (some lo) none
      let hi ← term true n
      expect (.closing ']')
      return .slice (some lo) (some hi)
    expect (.closing ']')
    return .index lo

/-- The entries of an object, up to the closing brace; a comma may stand before it. -/
def entries : Nat → Reader (List (Term × Term))
  | 0 => refuse
  | n + 1 => do
    if ← accept (.closing '\x7d') then return []
    let e ← entry n
    if ← accept (.symbol ",") then return e :: (← entries n)
    expect (.closing '\x7d')
    return [e]

/-- An entry of an object; without a value it is the member of that name. -/
def entry : Nat → Reader (Term × Term)
  | 0 => refuse
  | n + 1 => do
    let short (key value : Term) : Reader (Term × Term) := do
      if ← accept (.symbol ":") then return (key, ← term false n)
      return (key, value)
    match ← next with
    | .opening '(' =>
      let key ← term true n
      expect (.closing ')')
      expect (.symbol ":")
      return (key, ← term false n)
    | .word s => short (textTerm s) (.path .identity [(member s, false)])
    | .textStart =>
      let key := Term.text (← pieces n)
      short key (.path .identity [(.index key, false)])
    | .var x => do
      if ← accept (.symbol ":") then return (.var x, ← term false n)
      return (textTerm x, .var x)
    | _ => refuse

end

end Reader

/-- Words that start a program only before the name of another one, which there is not. -/
def isDirective (t : Token) : Bool :=
  t = .word "module" || t = .word "import" || t = .word "include"

/-- The term of a program; `none` when it does not follow the grammar. -/
def Term.parse? (source : String) : Option Term := do
  let ts ← Token.ofText? source
  if ts.head?.any isDirective then none
  match Reader.term true (8 * ts.length + 8) ts with
  | some (t, []) => some t
  | _ => none

/-- The definitions of a program that has nothing else. -/
def Definition.parseAll? (source : String) : Option (List Definition) := do
  let ts ← Token.ofText? source
  go (8 * ts.length + 8) ts
where
  /-- One definition after the other. -/
  go : Nat → List Token → Option (List Definition)
    | 0, _ => none
    | _ + 1, [] => some []
    | n + 1, .word "def" :: ts =>
      match Reader.definition (8 * ts.length + 8) ts with
      | some (d, rest) => (d :: ·) <$> go n rest
      | none => none
    | _ + 1, _ :: _ => none

end Conform.Filter
