import Conform.Decimal.Layout
import Conform.Json.Basic

/-!
# JSON text

`compact` writes a document without blanks, `pretty` with one member or item a line, two blanks a
level. A string escapes the quote, the backslash and the controls below the space, and nothing else.
-/

namespace Conform

/-- Numbers from `0.00001` up to below `10 ^ 16` have no exponent, and a binary number always has a
fraction. -/
def Number.layout : Layout := ⟨fun e => -5 ≤ e && e ≤ 15, true, true⟩

/-- The text of a number. -/
def Number.text : Number → String
  | .int n => toString n.toInt
  | .big n _ => toString n.toNat
  | .float x _ => Number.layout.text x

namespace Json

/-- A digit of a `\u` escape. -/
def hexDigit (n : Nat) : Char := Nat.digitChar n

/-- One character of a quoted text. -/
def quoteChar (c : Char) : List Char :=
  if c = '"' then ['\\', '"']
  else if c = '\\' then ['\\', '\\']
  else if c = '\x08' then ['\\', 'b']
  else if c = '\x0c' then ['\\', 'f']
  else if c = '\n' then ['\\', 'n']
  else if c = '\r' then ['\\', 'r']
  else if c = '\t' then ['\\', 't']
  else if c.toNat < 0x20 then ['\\', 'u', '0', '0', hexDigit (c.toNat / 16), hexDigit (c.toNat % 16)]
  else [c]

/-- A text in quotes. -/
def quote (s : String) : String := "\"" ++ String.ofList (s.toList.flatMap quoteChar) ++ "\""

mutual

/-- The text of a document without blanks. -/
def compact : Json → String
  | .null => "null"
  | .bool b => if b then "true" else "false"
  | .num n => n.text
  | .str s => quote s
  | .arr xs => "[" ++ ",".intercalate (compactItems xs) ++ "]"
  | .obj m => "\x7b" ++ ",".intercalate (compactMembers m) ++ "\x7d"

/-- The text of every item. -/
def compactItems : List Json → List String
  | [] => []
  | j :: r => compact j :: compactItems r

/-- The text of every member. -/
def compactMembers : List (String × Json) → List String
  | [] => []
  | (k, j) :: r => (quote k ++ ":" ++ compact j) :: compactMembers r

end

/-- The blanks in front of a line at depth `d`. -/
def indent (d : Nat) : String := String.ofList (List.replicate (2 * d) ' ')

/-- Lines at depth `d + 1` between brackets, or the bare brackets. -/
def block (d : Nat) (opening closing : String) : List String → String
  | [] => opening ++ closing
  | ls =>
    opening ++ "\n" ++ ",\n".intercalate (ls.map (indent (d + 1) ++ ·)) ++ "\n" ++ indent d ++ closing

mutual

/-- The text of a document at depth `d`, with one item or member a line. -/
def prettyAt (d : Nat) : Json → String
  | .arr xs => block d "[" "]" (prettyItems (d + 1) xs)
  | .obj m => block d "\x7b" "\x7d" (prettyMembers (d + 1) m)
  | j => compact j

/-- The text of every item at depth `d`. -/
def prettyItems (d : Nat) : List Json → List String
  | [] => []
  | j :: r => prettyAt d j :: prettyItems d r

/-- The text of every member at depth `d`. -/
def prettyMembers (d : Nat) : List (String × Json) → List String
  | [] => []
  | (k, j) :: r => (quote k ++ ": " ++ prettyAt d j) :: prettyMembers d r

end

/-- The text of a document with one item or member a line. -/
def pretty (j : Json) : String := prettyAt 0 j

end Json
end Conform
