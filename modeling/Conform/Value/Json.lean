import Conform.Json.Printer
import Conform.Value.Basic

/-!
# Values and JSON

`ofJson` reads a document as a value; a whole number above the signed range becomes a binary one.
`toJson` goes back: temporal values become texts and numbers that are not finite become null.
`write` prints a value without building a document.
-/

namespace Conform.Value

/-- The value of a number. -/
def ofNumber : Number → Value
  | .int n => .int n
  | .big n _ => .float n.toFloat
  | .float x _ => .float x

mutual

/-- The value of a document. -/
def ofJson : Json → Value
  | .null => .null
  | .bool b => .bool b
  | .num n => ofNumber n
  | .str s => .str s
  | .arr xs => .list (ofItems xs)
  | .obj m => .record (ofMembers m)

/-- The values of the items. -/
def ofItems : List Json → List Value
  | [] => []
  | j :: r => ofJson j :: ofItems r

/-- The fields of the members. -/
def ofMembers : List (String × Json) → List (String × Value)
  | [] => []
  | (k, j) :: r => (k, ofJson j) :: ofMembers r

end

/-- The document of a binary number; null when it is not finite. -/
def floatJson (x : Float) : Json :=
  match Number.ofFloat? x with
  | some n => .num n
  | none => .null

mutual

/-- The document of a value. -/
def toJson : Value → Json
  | .null => .null
  | .bool b => .bool b
  | .int n => .num (.int n)
  | .float x => floatJson x
  | .str s => .str s
  | .list xs => .arr (jsonItems xs)
  | .record m => .obj (jsonMembers m)
  | .dateTime d => .str d.text
  | .date d => .str d.text
  | .duration d => .str d.text

/-- The documents of the items. -/
def jsonItems : List Value → List Json
  | [] => []
  | v :: r => toJson v :: jsonItems r

/-- The members of the fields. -/
def jsonMembers : List (String × Value) → List (String × Json)
  | [] => []
  | (k, v) :: r => (k, toJson v) :: jsonMembers r

end

mutual

/-- Prints a value as JSON text. -/
def write : Value → String
  | .null => "null"
  | .bool b => if b then "true" else "false"
  | .int n => toString n.toInt
  | .float x => if x.isFinite then Number.layout.text x else "null"
  | .str s => Json.quote s
  | .list xs => "[" ++ writeItems xs ++ "]"
  | .record m => "\x7b" ++ writeFields m ++ "\x7d"
  | .dateTime d => Json.quote d.text
  | .date d => Json.quote d.text
  | .duration d => Json.quote d.text

/-- Prints items, a comma between them. -/
def writeItems : List Value → String
  | [] => ""
  | [v] => write v
  | v :: r => write v ++ "," ++ writeItems r

/-- Prints fields, a comma between them. -/
def writeFields : List (String × Value) → String
  | [] => ""
  | [(k, v)] => Json.quote k ++ ":" ++ write v
  | (k, v) :: r => Json.quote k ++ ":" ++ write v ++ "," ++ writeFields r

end

/-- The text of a value: temporal values bare, all others as JSON. -/
def text : Value → String
  | .dateTime d => d.text
  | .date d => d.text
  | .duration d => d.text
  | v => v.toJson.compact

/-- How messages name a value: a text in quotes, anything else by its sort. -/
def describe : Value → String
  | .str s => Json.quote s
  | v => v.sortName

end Conform.Value
