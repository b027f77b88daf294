import Conform.Pattern.Engine
import Conform.Pattern.Piece
import Conform.Text.Hex
import Conform.Text.Letter
import Conform.Text.Numeric

/-!
# Reading regular expressions

The engine of the program. The notation: literals, escapes, classes with ranges and set operations,
groups with or without a name, flags, alternation, and repetition with `*`, `+`, `?` and counts, greedy
or lazy. A text in any other form is refused, and so is one that is nested too deep or whose automaton
would be too large.
-/

namespace Conform.Pattern

/-- The flags in force. -/
structure Flags where
  /-- Letters match in either case. -/
  fold : Bool
  /-- The anchors match at every line. -/
  lines : Bool
  /-- The point matches a line break too. -/
  dotAll : Bool
  /-- Blanks and comments in the expression are dropped. -/
  spaced : Bool

/-- Where the reader stands. -/
structure Scan where
  rest : List Char
  flags : Flags
  /-- The names of groups so far. -/
  names : List String

/-- The scan with other characters left. -/
def Scan.go (s : Scan) (rest : List Char) : Scan := { s with rest := rest }

/-! ## Characters -/

/-- A character by its number: `width` digits, or any number of them in braces. -/
def codePoint? (width : Nat) (cs : List Char) : Option (Char × List Char) :=
  match cs with
  | '\x7b' :: r =>
    let ds := r.takeWhile (· != '\x7d')
    match r.drop ds.length with
    | _ :: r => (Text.hexChar? ds).map (·, r)
    | [] => none
  | _ =>
    if (cs.take width).length = width then (Text.hexChar? (cs.take width)).map (·, cs.drop width)
    else none

/-- A sign that may always be escaped. -/
def isPunct (c : Char) : Bool :=
  c.toNat < 0x80 && !c.isAlphanum && c != '<' && c != '>'

/-- The control character that a letter stands for. -/
def control? (c : Char) : Option Char :=
  if c = 'a' then some '\x07'
  else if c = 'f' then some '\x0c'
  else if c = 't' then some '\t'
  else if c = 'n' then some '\n'
  else if c = 'r' then some '\r'
  else if c = 'v' then some '\x0b'
  else none

/-- The class that a letter stands for. -/
def perl? (c : Char) : Option CharSet :=
  if c = 'd' then some .decimal
  else if c = 'D' then some (.compl .decimal)
  else if c = 'w' then some .word
  else if c = 'W' then some (.compl .word)
  else if c = 's' then some .blank
  else if c = 'S' then some (.compl .blank)
  else none

/-- What an escape stands for. -/
inductive Escape where
  | char (c : Char)
  | set (s : CharSet)
  | look (l : Look)

/-- The named edges of words. -/
def edge? (name : List Char) : Option Look :=
  let n := String.ofList name
  if n = "start" then some .wordStart
  else if n = "end" then some .wordEnd
  else if n = "start-half" then some .wordStartHalf
  else if n = "end-half" then some .wordEndHalf
  else none

/-- The edge of a word after `\b`, which may have a name in braces. Braces around a number are left
as a count. -/
def wordEdge? (cs : List Char) : Option (Escape × List Char) :=
  match cs with
  | '\x7b' :: c :: r =>
    if c.isAlpha || c == '-' then
      let name := (c :: r).takeWhile fun c => c.isAlpha || c == '-'
      match (c :: r).drop name.length with
      | '\x7d' :: r => (edge? name).map (.look ·, r)
      | _ => none
    else some (.look .wordEdge, cs)
  | _ => some (.look .wordEdge, cs)

/-- The properties of characters that `\p` knows. -/
def property? (name : String) : Option CharSet :=
  if name = "Any" then some (.compl .none)
  else if name = "ASCII" then some (.range '\x00' '\x7f')
  else if name = "Nd" ∨ name = "Decimal_Number" then some .decimal
  else if name = "White_Space" then some .blank
  else none

/-- A set that is folded first and negated then. -/
def adjust (fold negated : Bool) (s : CharSet) : CharSet :=
  let s := if fold then CharSet.fold s else s
  if negated then .compl s else s

/-- A property after `\p`, by one letter or by a name in braces. -/
def property (fold negated : Bool) (cs : List Char) : Option (CharSet × List Char) :=
  match cs with
  | '\x7b' :: r =>
    let inner := r.takeWhile (· != '\x7d')
    match r.drop inner.length with
    | _ :: r =>
      match inner with
      | '^' :: name => (property? (String.ofList name)).map (adjust fold (!negated) ·, r)
      | name => (property? (String.ofList name)).map (adjust fold negated ·, r)
    | [] => none
  | c :: r => (property? (String.singleton c)).map (adjust fold negated ·, r)
  | [] => none

/-- An escape after its backslash. -/
def escape? (fold : Bool) (cs : List Char) : Option (Escape × List Char) :=
  match cs with
  | [] => none
  | c :: r =>
    if c.isDigit then none
    else if c = 'x' then (codePoint? 2 r).map fun (c, r) => (.char c, r)
    else if c = 'u' then (codePoint? 4 r).map fun (c, r) => (.char c, r)
    else if c = 'U' then (codePoint? 8 r).map fun (c, r) => (.char c, r)
    else if c = 'p' then (property fold false r).map fun (s, r) => (.set s, r)
    else if c = 'P' then (property fold true r).map fun (s, r) => (.set s, r)
    else if c = 'b' then wordEdge? r
    else if c = 'B' then some (.look .notWordEdge, r)
    else if c = 'A' then some (.look .textStart, r)
    else if c = 'z' then some (.look .textEnd, r)
    else if c = '<' then some (.look .wordStart, r)
    else if c = '>' then some (.look .wordEnd, r)
    else match perl? c, control? c with
      | some s, _ => some (.set s, r)
      | none, some d => some (.char d, r)
      | none, none => if isPunct c then some (.char c, r) else none

/-! ## Classes -/

/-- The set of a single character. -/
def single (c : Char) : CharSet := .range c c

/-- The set of the characters of a text. -/
def anyOf (s : String) : CharSet := s.toList.foldr (fun c a => .union (single c) a) .none

/-- The ASCII classes by name. -/
def asciiClass? (name : String) : Option CharSet :=
  let lower := CharSet.range 'a' 'z'
  let upper := CharSet.range 'A' 'Z'
  let digit := CharSet.range '0' '9'
  let alpha := CharSet.union lower upper
  let alnum := CharSet.union alpha digit
  let graph := CharSet.range '!' '~'
  if name = "alnum" then some alnum
  else if name = "alpha" then some alpha
  else if name = "ascii" then some (.range '\x00' '\x7f')
  else if name = "blank" then some (anyOf "\t ")
  else if name = "cntrl" then some (.union (.range '\x00' '\x1f') (single '\x7f'))
  else if name = "digit" then some digit
  else if name = "graph" then some graph
  else if name = "lower" then some lower
  else if name = "print" then some (.range ' ' '~')
  else if name = "punct" then some (.inter graph (.compl alnum))
  else if name = "space" then some (.union (.range '\t' '\r') (single ' '))
  else if name = "upper" then some upper
  else if name = "word" then some (.union alnum (single '_'))
  else if name = "xdigit" then some (.union digit (.union (.range 'a' 'f') (.range 'A' 'F')))
  else none

/-- An ASCII class `[:name:]` after its first bracket. -/
def posix? (fold : Bool) (cs : List Char) : Option (CharSet × List Char) :=
  match cs with
  | ':' :: r =>
    let (neg, r) := match r with
      | '^' :: r => (true, r)
      | r => (false, r)
    let name := r.takeWhile (· != ':')
    match r.drop name.length with
    | ':' :: ']' :: r =>
      (asciiClass? (String.ofList name)).map fun s => (adjust fold neg s, r)
    | _ => none
  | _ => none

/-- Drops blanks and comments where the flag says so. -/
def unspace (spaced : Bool) : Nat → List Char → List Char
  | 0, cs => cs
  | fuel + 1, cs =>
    if !spaced then cs
    else match cs with
      | '#' :: r => unspace spaced fuel (r.dropWhile (· != '\n'))
      | c :: r => if Text.isBlank c then unspace spaced fuel r else cs
      | [] => []

/-- A member of a class: a character or a named set. -/
inductive Member where
  | char (c : Char)
  | set (s : CharSet)

/-- A member of a class in front. -/
def member? (fold : Bool) : List Char → Option (Member × List Char)
  | [] => none
  | '\\' :: r =>
    match escape? fold r with
    | some (.char c, r) => some (.char c, r)
    | some (.set s, r) => some (.set s, r)
    | _ => none
  | c :: r => some (.char c, r)

/-- The set of a member. -/
def Member.toSet : Member → CharSet
  | .char c => single c
  | .set s => s

/-- A member or a range of a class in front. -/
def span? (fold : Bool) (skip : List Char → List Char) (cs : List Char) :
    Option (CharSet × List Char) := do
  let (a, r) ← member? fold cs
  let r := skip r
  match r with
  | '-' :: r' =>
    match skip r' with
    | [] => none
    | d :: r'' =>
      if d = ']' ∨ d = '-' then some (a.toSet, r)
      else
        let (b, r) ← member? fold (d :: r'')
        match a, b with
        | .char lo, .char hi => if lo ≤ hi then some (.range lo hi, r) else none
        | _, _ => none
  | _ => some (a.toSet, r)

/-- An operation between two parts of a class. -/
inductive SetOp where
  | inter
  | minus
  | differ

/-- The set of two parts. -/
def SetOp.apply : SetOp → CharSet → CharSet → CharSet
  | .inter, a, b => .inter a b
  | .minus, a, b => .inter a (.compl b)
  | .differ, a, b => .union (.inter a (.compl b)) (.inter b (.compl a))

/-- The operation in front. -/
def setOp? : List Char → Option (SetOp × List Char)
  | '&' :: '&' :: r => some (.inter, r)
  | '-' :: '-' :: r => some (.minus, r)
  | '~' :: '~' :: r => some (.differ, r)
  | _ => none

/-- A class or a part of one, with the depth of its inner classes. -/
structure Bracket where
  set : CharSet
  depth : Nat

/-- Two parts with an operation between them; each is folded on its own. -/
def Bracket.combine (fold : Bool) (op : SetOp) (a b : Bracket) : Bracket :=
  ⟨op.apply (adjust fold false a.set) (adjust fold false b.set), max a.depth b.depth + 1⟩

/-- What stands left of the place in a class: the part so far, with the number of its members, and
the operation before it. -/
structure ClassScan where
  left : Option (SetOp × Bracket)
  members : Nat
  part : Bracket

namespace ClassScan

/-- A part with nothing in it yet. -/
def start (left : Option (SetOp × Bracket)) : ClassScan := ⟨left, 0, ⟨.none, 0⟩⟩

/-- The part so far; more than one member is one level deeper. -/
def current (k : ClassScan) : Bracket :=
  if 1 < k.members then ⟨k.part.set, k.part.depth + 1⟩ else k.part

/-- All that stands left of the place. -/
def total (fold : Bool) (k : ClassScan) : Bracket :=
  match k.left with
  | some (op, a) => a.combine fold op k.current
  | none => k.current

/-- The class with a further member. -/
def add (k : ClassScan) (b : Bracket) : ClassScan :=
  { k with members := k.members + 1, part := ⟨.union k.part.set b.set, max k.part.depth b.depth⟩ }

/-- The class with a further set. -/
def addSet (k : ClassScan) (s : CharSet) : ClassScan := k.add ⟨s, 0⟩

end ClassScan

/-- The dashes and the bracket that count as characters at the start of a class. -/
def leading (k : ClassScan) : List Char → Bool → ClassScan × List Char
  | '-' :: r, _ => leading (k.addSet (single '-')) r false
  | ']' :: r, true => (k.addSet (single ']'), r)
  | cs, _ => (k, cs)

mutual

/-- A class after its opening bracket. -/
def class? (fold spaced : Bool) : Nat → List Char → Option (Bracket × List Char)
  | 0, _ => none
  | fuel + 1, cs => do
    let cs := unspace spaced fuel cs
    let (neg, cs) := match cs with
      | '^' :: r => (true, unspace spaced fuel r)
      | r => (false, r)
    let (k, cs) := leading (.start none) cs true
    let (b, cs) ← classRest fold spaced fuel k cs
    return (⟨adjust fold neg b.set, b.depth + 1⟩, cs)

/-- The rest of a class, up to its closing bracket. -/
def classRest (fold spaced : Bool) : Nat → ClassScan → List Char → Option (Bracket × List Char)
  | 0, _, _ => none
  | fuel + 1, k, cs =>
    let cs := unspace spaced fuel cs
    match cs with
    | [] => none
    | ']' :: r => some (k.total fold, r)
    | '[' :: r =>
      match posix? fold r with
      | some (s, r) => classRest fold spaced fuel (k.addSet s) r
      | none => do
        let (b, r) ← class? fold spaced fuel r
        classRest fold spaced fuel (k.add b) r
    | _ =>
      match setOp? cs with
      | some (op, r) => classRest fold spaced fuel (.start (some (op, k.total fold))) r
      | none => do
        let (s, r) ← span? fold (unspace spaced fuel) cs
        classRest fold spaced fuel (k.addSet s) r

end

/-! ## Groups and flags -/

/-- A flag letter sets its flag. Whether repetitions are lazy does not change whether there is a match.
The set of all characters is always that of Unicode, and a line ends with a line feed only. -/
def Flags.set? (f : Flags) (c : Char) (on : Bool) : Option Flags :=
  if c = 'i' then some { f with fold := on }
  else if c = 'm' then some { f with lines := on }
  else if c = 's' then some { f with dotAll := on }
  else if c = 'x' then some { f with spaced := on }
  else if c = 'U' ∨ (c = 'u' ∧ on) then some f
  else none

/-- The letters of a flag group up to `:` or `)`: the flags they set, and whether a group
follows. -/
def flags? (f : Flags) (on : Bool) (seen : List Char) : List Char → Option (Flags × Bool × List Char)
  | [] => none
  | c :: r =>
    let inner := c == ':'
    if c = ':' ∨ c = ')' then
      match seen with
      | '-' :: _ => none
      | [] => if inner then some (f, true, r) else none
      | _ => some (f, inner, r)
    else if c = '-' then if on then flags? f false (c :: seen) r else none
    else if seen.contains c then none
    else do
      let f ← f.set? c on
      flags? f on (c :: seen) r

/-- May the character start the name of a group? -/
def nameStart (c : Char) : Bool := c == '_' || Text.isLetter c

/-- May the character stand in the name of a group? -/
def nameRest (c : Char) : Bool :=
  nameStart c || Text.isNumeric c || c == '.' || c == '[' || c == ']'

/-- The name of a group and the bracket after it. -/
def groupName? (names : List String) (cs : List Char) : Option (String × List Char) :=
  let name := cs.takeWhile (· != '>')
  match cs.drop name.length, name with
  | _ :: r, c :: n =>
    if nameStart c && n.all nameRest && !names.contains (String.ofList name) then
      some (String.ofList name, r)
    else none
  | _, _ => none

/-! ## Expressions -/

/-- A count: digits between blanks, at most 32 bits. -/
def count? (cs : List Char) : Option (Nat × List Char) :=
  let cs := Text.dropBlank cs
  let (ds, r) := Text.spanDigits cs
  if ds.isEmpty || 0x100000000 ≤ Text.natOfDigits ds then none
  else some (Text.natOfDigits ds, Text.dropBlank r)

/-- The counts of a repetition after the opening brace. -/
def counts? (spaced : Bool) (cs : List Char) : Option (Nat × Option Nat × List Char) := do
  let (n, r) ← count? (unspace spaced cs.length cs)
  match r with
  | '\x7d' :: r => some (n, some n, r)
  | ',' :: r =>
    match unspace spaced r.length r with
    | '\x7d' :: r => some (n, none, r)
    | r =>
      let (m, r) ← count? r
      match r with
      | '\x7d' :: r => if n ≤ m then some (n, some m, r) else none
      | _ => none
  | _ => none

/-- The mark that makes a repetition lazy is dropped: it does not change whether there is a
match. -/
def dropLazy : List Char → List Char
  | '?' :: r => r
  | r => r

/-- The repetitions after an expression, any number of them. -/
def repeats (spaced : Bool) : Nat → Piece → List Char → Option (Piece × List Char)
  | 0, _, _ => none
  | fuel + 1, a, cs =>
    match unspace spaced fuel cs with
    | '*' :: r => repeats spaced fuel (a.repeated 0 none) (dropLazy r)
    | '+' :: r => repeats spaced fuel (a.repeated 1 none) (dropLazy r)
    | '?' :: r => repeats spaced fuel (a.repeated 0 (some 1)) (dropLazy r)
    | '\x7b' :: r => do
      let (n, m, r) ← counts? spaced r
      repeats spaced fuel (a.repeated n m) (dropLazy (unspace spaced fuel r))
    | r => some (a, r)

/-- The expression of an escape. -/
def Flags.escape (f : Flags) : Escape → Piece
  | .char c => .char f.fold c
  | .set s => .set s 0
  | .look l => .look l

/-- An expression that is no group. -/
def atom? (s : Scan) : Option (Piece × Scan) :=
  match s.rest with
  | [] => none
  | '\\' :: r => (escape? s.flags.fold r).map fun (e, r) => (s.flags.escape e, s.go r)
  | '[' :: r =>
    (class? s.flags.fold s.flags.spaced (2 * r.length + 2) r).map fun (b, r) =>
      (.set b.set b.depth, s.go r)
  | '.' :: r => some (.set (.compl (if s.flags.dotAll then .none else single '\n')) 0, s.go r)
  | '^' :: r => some (.look (if s.flags.lines then .lineStart else .textStart), s.go r)
  | '$' :: r => some (.look (if s.flags.lines then .lineEnd else .textEnd), s.go r)
  | c :: r =>
    if c = '*' ∨ c = '+' ∨ c = '?' ∨ c = '\x7b' then none
    else some (.char s.flags.fold c, s.go r)

/-- Does a repetition stand in front? -/
def startsRepeat : List Char → Bool
  | c :: _ => c == '*' || c == '+' || c == '?' || c == '\x7b'
  | [] => false

/-- What a group reads as. -/
inductive Group where
  | flags
  | piece (p : Piece)

mutual

/-- Alternatives, up to the end of the group. -/
def alternatives : Nat → Scan → Option (List Piece × Scan)
  | 0, _ => none
  | fuel + 1, s => do
    let (ps, s) ← sequence fuel s
    match s.rest with
    | '|' :: r =>
      let (others, s) ← alternatives fuel (s.go r)
      return (.concat ps :: others, s)
    | _ => return ([.concat ps], s)

/-- Expressions one after the other. -/
def sequence : Nat → Scan → Option (List Piece × Scan)
  | 0, _ => none
  | fuel + 1, s =>
    let s := s.go (unspace s.flags.spaced s.rest.length s.rest)
    match s.rest with
    | [] => some ([], s)
    | '|' :: _ => some ([], s)
    | ')' :: _ => some ([], s)
    | '(' :: r => do
      let (g, s) ← group fuel (s.go r)
      match g with
      | .flags =>
        if startsRepeat s.rest then none
        let (ps, s) ← sequence fuel s
        return (.flags :: ps, s)
      | .piece p => followed fuel p s
    | _ => do
      let (p, s) ← atom? s
      followed fuel p s

/-- A piece with its repetitions, and the expressions after it. -/
def followed : Nat → Piece → Scan → Option (List Piece × Scan)
  | 0, _, _ => none
  | fuel + 1, p, s => do
    let (p, r) ← repeats s.flags.spaced (s.rest.length + 1) p s.rest
    let (ps, s) ← sequence fuel (s.go r)
    return (p :: ps, s)

/-- A group after its opening bracket. -/
def group : Nat → Scan → Option (Group × Scan)
  | 0, _ => none
  | fuel + 1, s =>
    match s.rest with
    | '?' :: '=' :: _ => none
    | '?' :: '!' :: _ => none
    | '?' :: '<' :: '=' :: _ => none
    | '?' :: '<' :: '!' :: _ => none
    | '?' :: 'P' :: '<' :: r => do
      let (n, r) ← groupName? s.names r
      grouped fuel true s.flags { s with rest := r, names := n :: s.names }
    | '?' :: '<' :: r => do
      let (n, r) ← groupName? s.names r
      grouped fuel true s.flags { s with rest := r, names := n :: s.names }
    | '?' :: r => do
      let (f, inner, r) ← flags? s.flags true [] r
      if inner then grouped fuel false s.flags { s with rest := r, flags := f }
      else some (.flags, { s with rest := r, flags := f })
    | _ => grouped fuel true s.flags s

/-- The inside of a group and its closing bracket; the flags from outside are in force again after
it. -/
def grouped : Nat → Bool → Flags → Scan → Option (Group × Scan)
  | 0, _, _, _ => none
  | fuel + 1, keeps, outside, s => do
    let (ps, s) ← alternatives fuel s
    match s.rest with
    | ')' :: r =>
      some (.piece (.group keeps (.either ps)), { s with rest := r, flags := outside })
    | _ => none

end

end Conform.Pattern

namespace Conform

/-- Reads a regular expression; `none` when it is not well formed or too large. -/
def Regex.parse? (source : String) : Option Regex :=
  let cs := source.toList
  match Pattern.alternatives (4 * cs.length + 8) ⟨cs, ⟨false, false, false, false⟩, []⟩ with
  | some (ps, ⟨[], _, _⟩) =>
    if (Pattern.Piece.either ps).fits then some (Pattern.Piece.either ps).regex else none
  | _ => none

/-- The engine of the program. -/
instance : PatternEngine where
  compile source :=
    match Regex.parse? source with
    | some r => .ok r.matches
    | none => .error "regex parse error"

end Conform
