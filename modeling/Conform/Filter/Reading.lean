import Conform.Filter.Outputs
import Conform.Text.Hex

/-!
# Data from JSON text

The reader behind the filters that turn a text into data. Numbers keep their spelling, a name that
comes again keeps its place and takes the last value, and every refusal has a cause with a short
wording. Every reader gives what it reads together with the characters after it.
-/

namespace Conform.Filter

/-- Why a text is not read as data. -/
inductive Unreadable where
  | noValue
  | noValueOrEnd
  | noCommaOrEnd
  | noColon
  | noString
  | notAtEnd
  | noDigit
  | control
  | openString
  | badEscape (why : String)

namespace Unreadable

/-- The wording of a cause. -/
def message : Unreadable → String
  | .noValue => "value expected"
  | .noValueOrEnd => "value or end of sequence expected"
  | .noCommaOrEnd => "comma or end of sequence expected"
  | .noColon => "colon expected"
  | .noString => "string expected"
  | .notAtEnd => "end of file expected"
  | .noDigit => "expected digit"
  | .control => "invalid control character"
  | .openString => "unterminated string"
  | .badEscape why => why

end Unreadable

namespace Reading

/-- Drops the blanks in front. -/
def dropBlanks (cs : List Char) : List Char :=
  cs.dropWhile fun c => c = ' ' || c = '\t' || c = '\n' || c = '\r'

/-! ## Numbers -/

/-- Digits, of which there must be one. -/
def digits (cs : List Char) : Except Unreadable (List Char × List Char) :=
  let (ds, r) := Text.spanDigits cs
  if ds.isEmpty then .error .noDigit else .ok (ds, r)

/-- The digits before the point; a zero in front stands alone. -/
def whole : List Char → Except Unreadable (List Char × List Char)
  | '0' :: r => .ok (['0'], r)
  | cs => digits cs

/-- A point with its digits, if one stands in front. -/
def fraction : List Char → Except Unreadable (List Char × List Char)
  | '.' :: r => do
    let (ds, r) ← digits r
    return ('.' :: ds, r)
  | cs => .ok ([], cs)

/-- An exponent mark with its sign and digits, if one stands in front. -/
def exponent : List Char → Except Unreadable (List Char × List Char)
  | c :: r =>
    if c = 'e' ∨ c = 'E' then do
      let (sign, r) := match r with
        | '+' :: r => (['+'], r)
        | '-' :: r => (['-'], r)
        | r => ([], r)
      let (ds, r) ← digits r
      return (c :: sign ++ ds, r)
    else .ok ([], c :: r)
  | [] => .ok ([], [])

/-- A number after its sign. -/
def number (sign cs : List Char) : Except Unreadable (Datum × List Char) := do
  let (a, r) ← whole cs
  let (b, r) ← fraction r
  let (c, r) ← exponent r
  return (.ofNumeral (String.ofList (sign ++ a ++ b ++ c)), r)

/-! ## Strings -/

/-- The four digits of an escape. -/
def quad : List Char → Except Unreadable (Nat × List Char)
  | a :: b :: c :: d :: r =>
    match [a, b, c, d].mapM Text.hexDigit? with
    | some vs => .ok (vs.foldl (fun n v => 16 * n + v) 0, r)
    | none => .error (.badEscape "invalid hexadecimal sequence")
  | _ => .error (.badEscape "unterminated escape sequence")

/-- The character of an escape with four digits, or of two of them that are a pair. -/
def longEscape (cs : List Char) : Except Unreadable (Char × List Char) := do
  let (n, r) ← quad cs
  if 0xd800 ≤ n ∧ n < 0xdc00 then
    match r with
    | '\\' :: 'u' :: r =>
      let (m, r) ← quad r
      if 0xdc00 ≤ m ∧ m < 0xe000 then
        return (Char.ofNat (0x10000 + (n - 0xd800) * 0x400 + (m - 0xdc00)), r)
      else .error (.badEscape "expected low surrogate")
    | _ => .error (.badEscape "expected low surrogate")
  else if 0xdc00 ≤ n ∧ n < 0xe000 then
    .error (.badEscape ("invalid character with index " ++ toString n))
  else return (Char.ofNat n, r)

/-- The character of an escape after its backslash. -/
def escape : List Char → Except Unreadable (Char × List Char)
  | [] => .error (.badEscape "unterminated escape sequence")
  | c :: r =>
    match c with
    | '"' | '\\' | '/' => .ok (c, r)
    | 'b' => .ok ('\x08', r)
    | 'f' => .ok ('\x0c', r)
    | 'n' => .ok ('\n', r)
    | 'r' => .ok ('\r', r)
    | 't' => .ok ('\t', r)
    | 'u' => longEscape r
    | _ => .error (.badEscape "unknown escape sequence type")

/-- A string after its opening quote, given the characters so far, last one first; at most `n`
characters. -/
def stringFrom : Nat → List Char → List Char → Except Unreadable (String × List Char)
  | 0, _, _ => .error .openString
  | _ + 1, _, [] => .error .openString
  | n + 1, seen, c :: r =>
    if c = '"' then .ok (String.ofList seen.reverse, r)
    else if c = '\\' then do
      let (x, r) ← escape r
      stringFrom n (x :: seen) r
    else if c.toNat < 0x20 then .error .control
    else stringFrom n (c :: seen) r

/-- A string after its opening quote. -/
def string (cs : List Char) : Except Unreadable (String × List Char) :=
  stringFrom (cs.length + 1) [] cs

/-! ## Values -/

/-- Is there a further part before the closing bracket? The characters are left at the part, or
after the bracket. -/
def more (first : Bool) (close : Char) (cs : List Char) : Except Unreadable (Bool × List Char) :=
  match dropBlanks cs with
  | [] => .error (if first then .noValueOrEnd else .noCommaOrEnd)
  | c :: r =>
    if c = close then .ok (false, r)
    else if first then .ok (true, c :: r)
    else if c = ',' then
      match dropBlanks r with
      | [] => .error .noValue
      | r => .ok (true, r)
    else .error .noCommaOrEnd

mutual

/-- A value that starts with the first character. -/
def value : Nat → List Char → Except Unreadable (Datum × List Char)
  | 0, _ => .error .noValue
  | n + 1, cs =>
    match dropBlanks cs with
    | 'n' :: 'u' :: 'l' :: 'l' :: r => .ok (.null, r)
    | 't' :: 'r' :: 'u' :: 'e' :: r => .ok (.bool true, r)
    | 'f' :: 'a' :: 'l' :: 's' :: 'e' :: r => .ok (.bool false, r)
    | '"' :: r => do
      let (s, r) ← string r
      return (.str s, r)
    | '[' :: r => do
      let (xs, r) ← items n true r
      return (.arr xs, r)
    | '\x7b' :: r => do
      let (m, r) ← members n true r
      return (.obj (Entries.settle m), r)
    | '-' :: r => number ['-'] r
    | c :: r => if c.isDigit then number [] (c :: r) else .error .noValue
    | [] => .error .noValue

/-- The items of an array, up to its closing bracket. -/
def items : Nat → Bool → List Char → Except Unreadable (List Datum × List Char)
  | 0, _, _ => .error .noValue
  | n + 1, first, cs => do
    let (again, r) ← more first ']' cs
    if again then
      let (d, r) ← value n r
      let (ds, r) ← items n false r
      return (d :: ds, r)
    else return ([], r)

/-- The members of an object, up to its closing bracket. -/
def members : Nat → Bool → List Char → Except Unreadable (List (String × Datum) × List Char)
  | 0, _, _ => .error .noValue
  | n + 1, first, cs => do
    let (again, r) ← more first '\x7d' cs
    if again then
      match r with
      | '"' :: r =>
        let (k, r) ← string r
        match dropBlanks r with
        | ':' :: r =>
          let (d, r) ← value n r
          let (m, r) ← members n false r
          return ((k, d) :: m, r)
        | _ => .error .noColon
      | _ => .error .noString
    else return ([], r)

end

end Reading

/-- The data of a text that holds one value and blanks around it. -/
def Datum.ofText (s : String) : Except Unreadable Datum := do
  let (d, r) ← Reading.value (2 * s.length + 2) s.toList
  if (Reading.dropBlanks r).isEmpty then return d else .error .notAtEnd

end Conform.Filter
