import Conform.Text.Blank
import Conform.Text.Hex
import Conform.Text.Numeric

/-!
# The tokens of filter programs

A text in quotes becomes a run of tokens: its characters, and between a pair of hole marks the
tokens of each filter in it. Operators are cut as long as possible, up to a minus sign, which starts
an operand there.
-/

namespace Conform.Filter

/-- A token of a filter program. -/
inductive Token where
  /-- A keyword or the name of a filter. -/
  | word (s : String)
  /-- A name with a point before it. -/
  | field (s : String)
  /-- A name with a dollar sign before it. -/
  | var (s : String)
  /-- A name with an at sign before it. -/
  | format (s : String)
  | number (s : String)
  | symbol (s : String)
  | opening (c : Char)
  | closing (c : Char)
  | textStart
  | chars (s : String)
  | textEnd
  | holeStart
  | holeEnd
deriving DecidableEq

namespace Token

/-- What has been opened and not yet closed. -/
inductive Frame where
  | bracket
  | hole

/-- May the character start a name? -/
def isNameStart (c : Char) : Bool := c.isAlpha || c = '_'

/-- May the character stand in a name? -/
def isNameRest (c : Char) : Bool := c.isAlphanum || c = '_'

/-- Is the character part of an operator? -/
def isOperator (c : Char) : Bool := c ∈ ['|', '=', '!', '<', '>', '+', '-', '*', '/', '%']

/-- May the character go on with an operator? A minus sign starts another token. -/
def isOperatorRest (c : Char) : Bool := isOperator c && c ≠ '-'

/-- The longest run that `p` holds of, as a text, and the rest. -/
def cut (p : Char → Bool) (cs : List Char) : String × List Char :=
  (String.ofList (cs.takeWhile p), cs.dropWhile p)

/-- A name, also one with the name of a module and two colons before it. -/
def name? (cs : List Char) : Option (String × List Char) :=
  match cut isNameRest cs with
  | (s, ':' :: ':' :: r) =>
    if r.head?.any isNameStart then
      let (t, r) := cut isNameRest r
      some (s ++ "::" ++ t, r)
    else none
  | (s, r) => some (s, r)

/-- What follows a comment: it ends with its line, and a line that ends with an odd number of
backslashes goes on. -/
def afterComment : Nat → List Char → List Char
  | 0, _ => []
  | n + 1, cs =>
    let line := (cs.takeWhile (· ≠ '\n')).reverse
    let line := match line with
      | '\r' :: r => r
      | r => r
    let rest := (cs.dropWhile (· ≠ '\n')).drop 1
    if (line.takeWhile (· = '\\')).length % 2 = 1 then afterComment n rest else rest

/-- Digits, of which there must be one; what counts as a digit here is any numeric character. -/
def digits? (cs : List Char) : Option (String × List Char) :=
  let (ds, r) := cut Text.isNumeric cs
  if ds.isEmpty then none else some (ds, r)

/-- The digits, fraction and exponent of a number; a point and an exponent mark need digits. -/
def number? (cs : List Char) : Option (String × List Char) := do
  let (whole, r) ← digits? cs
  let (fraction, r) ← match r with
    | '.' :: r => (digits? r).map fun (ds, r) => ("." ++ ds, r)
    | r => some ("", r)
  match r with
  | c :: r' =>
    if c = 'e' ∨ c = 'E' then
      let (sign, r') := match r' with
        | '+' :: q => ("+", q)
        | '-' :: q => ("-", q)
        | q => ("", q)
      let (ds, r') ← digits? r'
      return (whole ++ fraction ++ c.toString ++ sign ++ ds, r')
    else return (whole ++ fraction, r)
  | [] => return (whole ++ fraction, [])

/-- The character that an escape stands for, and the rest. -/
def escape? : List Char → Option (Char × List Char)
  | 'u' :: a :: b :: c :: d :: r => do
    let x ← Text.hexChar? [a, b, c, d]
    return (x, r)
  | c :: r =>
    (fun x => (x, r)) <$> match c with
      | '\\' => some '\\'
      | '/' => some '/'
      | '"' => some '"'
      | 'b' => some '\x08'
      | 'f' => some '\x0c'
      | 'n' => some '\n'
      | 'r' => some '\r'
      | 't' => some '\t'
      | _ => none
  | [] => none

mutual

/-- The tokens of a program, given what is open. -/
def scan : Nat → List Frame → List Char → Option (List Token)
  | 0, _, _ => none
  | _ + 1, [], [] => some []
  | _ + 1, _ :: _, [] => none
  | n + 1, open_, c :: r =>
    if Text.isBlank c then scan n open_ r
    else if c = '#' then scan n open_ (afterComment n r)
    else if isNameStart c then do
      let (s, rest) ← name? (c :: r)
      (.word s :: ·) <$> scan n open_ rest
    else if c.isDigit then do
      let (s, rest) ← number? (c :: r)
      (.number s :: ·) <$> scan n open_ rest
    else if isOperator c then
      let (s, rest) := cut isOperatorRest r
      (.symbol (c.toString ++ s) :: ·) <$> scan n open_ rest
    else match c, r with
      | '$', d :: _ =>
        if isNameStart d then
          let (s, rest) := cut isNameRest r
          (.var s :: ·) <$> scan n open_ rest
        else none
      | '@', d :: _ =>
        if isNameStart d then
          let (s, rest) := cut isNameRest r
          (.format s :: ·) <$> scan n open_ rest
        else none
      | '.', '.' :: r => (.symbol ".." :: ·) <$> scan n open_ r
      | '.', d :: _ =>
        if isNameStart d then
          let (s, rest) := cut isNameRest r
          (.field s :: ·) <$> scan n open_ rest
        else (.symbol "." :: ·) <$> scan n open_ r
      | '.', [] => (.symbol "." :: ·) <$> scan n open_ []
      | '"', r => (.textStart :: ·) <$> scanText n open_ [] r
      | c, r =>
        if c = ':' ∨ c = ';' ∨ c = ',' ∨ c = '?' then (.symbol c.toString :: ·) <$> scan n open_ r
        else if c = '(' ∨ c = '[' ∨ c = '\x7b' then (.opening c :: ·) <$> scan n (.bracket :: open_) r
        else if c = ')' ∨ c = ']' ∨ c = '\x7d' then
          match open_ with
          | [] => none
          | .bracket :: open_ => (.closing c :: ·) <$> scan n open_ r
          | .hole :: open_ => if c = ')' then (.holeEnd :: ·) <$> scanText n open_ [] r else none
        else none

/-- The tokens of the inside of a text and of what follows it, given the characters read so far,
last one first. -/
def scanText : Nat → List Frame → List Char → List Char → Option (List Token)
  | 0, _, _, _ => none
  | _ + 1, _, _, [] => none
  | n + 1, open_, seen, '"' :: r =>
    (fun ts => .chars (String.ofList seen.reverse) :: .textEnd :: ts) <$> scan n open_ r
  | n + 1, open_, seen, '\\' :: '(' :: r =>
    (fun ts => .chars (String.ofList seen.reverse) :: .holeStart :: ts) <$> scan n (.hole :: open_) r
  | n + 1, open_, seen, '\\' :: r => do
    let (c, rest) ← escape? r
    scanText n open_ (c :: seen) rest
  | n + 1, open_, seen, c :: r => scanText n open_ (c :: seen) r

end

/-- The tokens of a program; `none` when a character is in no token, a text is not closed, or an
escape is unknown. -/
def ofText? (s : String) : Option (List Token) := scan (s.length + 1) [] s.toList

end Token
end Conform.Filter
