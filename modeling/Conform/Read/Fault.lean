import Conform.Json.Printer
import Conform.Text.Shown

/-!
# What can be wrong with a text

A fault is either one of the text itself (it is no JSON) or one of its shape (it is JSON, but not
what the place asks for). `Fault.message` words it, `Place` counts lines and columns.
-/

namespace Conform.Read

/-- What stands where something else was asked for. -/
inductive Found where
  | null
  | bool (b : Bool)
  | int (i : Int)
  | float (x : Float)
  | str (s : String)
  | sequence
  | map

/-- A fault of the text or of its shape. -/
inductive Fault where
  | endOfValue
  | endOfList
  | endOfObject
  | endOfString
  | noValue
  | badWord
  | noColon
  | noListSeparator
  | noObjectSeparator
  | trailingComma
  | trailingCharacters
  | keyNotString
  | badNumber
  | outOfRange
  | badEscape
  | shortEscape
  | loneSurrogate
  | controlCharacter
  | badCodePoint
  | tooDeep
  | wrongType (found : Found) (expected : String)
  | wrongValue (found : Found) (expected : String)
  | wrongLength (n : Nat) (expected : String)
  | unknownVariant (name : String) (known : List String)
  | missingField (name : String)
  | repeatedField (name : String)
  | noVariant (name : String)

/-- A name between backquotes. -/
def ticked (s : String) : String := "`" ++ s ++ "`"

/-- The wording of what was found. -/
def Found.text : Found → String
  | .null => "null"
  | .bool b => "boolean " ++ ticked (if b then "true" else "false")
  | .int i => "integer " ++ ticked (toString i)
  | .float x => "floating point " ++ ticked (Number.layout.text x)
  | .str s => "string " ++ Text.shown s
  | .sequence => "sequence"
  | .map => "map"

/-- What a document counts as when something else was asked for. -/
def Found.ofJson : Json → Found
  | .null => .null
  | .bool b => .bool b
  | .num (.int n) => .int n.toInt
  | .num (.big n _) => .int n.toNat
  | .num (.float x _) => .float x
  | .str s => .str s
  | .arr _ => .sequence
  | .obj _ => .map

/-- The names that a place knows. -/
def knownNames : List String → String
  | [] => "there are no variants"
  | [a] => "expected " ++ ticked a
  | [a, b] => "expected " ++ ticked a ++ " or " ++ ticked b
  | ns => "expected one of " ++ ", ".intercalate (ns.map ticked)

/-- The wording of a fault. -/
def Fault.message : Fault → String
  | .endOfValue => "EOF while parsing a value"
  | .endOfList => "EOF while parsing a list"
  | .endOfObject => "EOF while parsing an object"
  | .endOfString => "EOF while parsing a string"
  | .noValue => "expected value"
  | .badWord => "expected ident"
  | .noColon => "expected `:`"
  | .noListSeparator => "expected `,` or `]`"
  | .noObjectSeparator => "expected `,` or `\x7d`"
  | .trailingComma => "trailing comma"
  | .trailingCharacters => "trailing characters"
  | .keyNotString => "key must be a string"
  | .badNumber => "invalid number"
  | .outOfRange => "number out of range"
  | .badEscape => "invalid escape"
  | .shortEscape => "unexpected end of hex escape"
  | .loneSurrogate => "lone leading surrogate in hex escape"
  | .controlCharacter => "control character (\\u0000-\\u001F) found while parsing a string"
  | .badCodePoint => "invalid unicode code point"
  | .tooDeep => "recursion limit exceeded"
  | .wrongType f e => "invalid type: " ++ f.text ++ ", expected " ++ e
  | .wrongValue f e => "invalid value: " ++ f.text ++ ", expected " ++ e
  | .wrongLength n e => "invalid length " ++ toString n ++ ", expected " ++ e
  | .unknownVariant n ks => "unknown variant " ++ ticked n ++ ", " ++ knownNames ks
  | .missingField n => "missing field " ++ ticked n
  | .repeatedField n => "duplicate field " ++ ticked n
  | .noVariant n => "data did not match any variant of untagged enum " ++ n

/-- The bytes of a text that are still to be read. -/
abbrev Bytes := List UInt8

/-- A line, counted from 1, and the number of bytes before a place on that line. -/
structure Place where
  line : Nat
  column : Nat

/-- The place after the bytes `read`. -/
def Place.after (read : Bytes) : Place :=
  read.foldl (fun p b => if b = 0x0a then ⟨p.line + 1, 0⟩ else ⟨p.line, p.column + 1⟩) ⟨1, 0⟩

/-- One step from a document to a part of it. -/
inductive Step where
  | key (name : String)
  | index (i : Nat)
  /-- A name that could not be read. -/
  | unknown
deriving DecidableEq

/-- The steps from the whole document to a part, the last one first. -/
abbrev Trail := List Step

/-- The text of the steps, the first one first. -/
def stepsText (first : Bool) : List Step → String
  | [] => ""
  | .index i :: r => "[" ++ toString i ++ "]" ++ stepsText false r
  | .key k :: r => (if first then "" else ".") ++ k ++ stepsText false r
  | .unknown :: r => (if first then "" else ".") ++ "?" ++ stepsText false r

/-- The text of a trail; the whole document is a single point. -/
def Trail.text : Trail → String
  | [] => "."
  | t => stepsText true t.reverse

/-- Reading ended early. -/
structure Stop where
  fault : Fault
  /-- The bytes after the place of the fault. -/
  rest : Bytes
  /-- The place is final; otherwise the end of the enclosing container will be taken. -/
  placed : Bool
  trail : Option Trail

/-- A fault right after the bytes read so far. -/
def Stop.here (f : Fault) (rest : Bytes) : Stop := ⟨f, rest, true, none⟩

/-- A fault at the next byte. -/
def Stop.ahead (f : Fault) (rest : Bytes) : Stop := ⟨f, rest.drop 1, true, none⟩

/-- A fault whose place is still open. -/
def Stop.loose (f : Fault) (rest : Bytes) : Stop := ⟨f, rest, false, none⟩

/-- Makes the place final. -/
def Stop.place (s : Stop) : Stop := { s with placed := true }

/-- Gives a fault its trail, unless it has one. -/
def Stop.along (s : Stop) (t : Trail) : Stop := { s with trail := some (s.trail.getD t) }

/-- The message of a fault in the text `source`, with its line and column once the place is
final. -/
def Stop.message (source : Bytes) (s : Stop) : String :=
  if s.placed then
    let p := Place.after (source.take (source.length - s.rest.length))
    s.fault.message ++ " at line " ++ toString p.line ++ " column " ++ toString p.column
  else s.fault.message

/-- Gives the faults of a part their trail. -/
def track {α : Type} (t : Trail) (r : Except Stop α) : Except Stop α := r.mapError (·.along t)

end Conform.Read
