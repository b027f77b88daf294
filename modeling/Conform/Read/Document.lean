import Conform.Read.Token

/-!
# Reading documents from text

`document` reads one value and keeps repeated names, `skip` passes over one without keeping it, and
`parse` reads a whole text. At most 127 containers may stand inside each other where a value is
read; a value that is skipped has no such limit.

`items` and `members` are the loops over a list and an object. They hand each part to a reader of
the caller's, with the trail of the part.
-/

namespace Conform.Read

/-- The number of containers that may be open, plus one. -/
def depthLimit : Nat := 128

/-! ## Separators and brackets -/

/-- Is there a further item? The bytes are left at the item, or at the closing bracket. -/
def nextItem (first : Bool) (r : Bytes) : Except Stop (Bool × Bytes) :=
  match dropBlanks r with
  | [] => .error (.ahead .endOfList [])
  | b :: r =>
    if b = byte ']' then .ok (false, b :: r)
    else if first then .ok (true, b :: r)
    else if b = byte ',' then
      match dropBlanks r with
      | [] => .error (.ahead .endOfValue [])
      | c :: r => if c = byte ']' then .error (.ahead .trailingComma (c :: r)) else .ok (true, c :: r)
    else .error (.ahead .noListSeparator (b :: r))

/-- The quote in front of a further name, if there is one; else the bytes are left at the closing
bracket. -/
def nextQuote (first : Bool) (r : Bytes) : Except Stop (Bool × Bytes) :=
  match dropBlanks r with
  | [] => .error (.ahead .endOfObject [])
  | b :: r =>
    if b = byte '}' then .ok (false, b :: r)
    else if first then
      if b = byte '"' then .ok (true, r) else .error (.ahead .keyNotString (b :: r))
    else if b = byte ',' then
      match dropBlanks r with
      | [] => .error (.ahead .endOfValue [])
      | c :: r =>
        if c = byte '"' then .ok (true, r)
        else if c = byte '}' then .error (.ahead .trailingComma (c :: r))
        else .error (.ahead .keyNotString (c :: r))
    else .error (.ahead .noObjectSeparator (b :: r))

/-- A further name, if there is one. -/
def nextKey (first : Bool) (r : Bytes) : Except Stop (Option String × Bytes) := do
  let (more, r) ← nextQuote first r
  if more then
    let (k, r) ← string r
    return (some k, r)
  else return (none, r)

/-- The colon after a name. -/
def colon (r : Bytes) : Except Stop Bytes :=
  match dropBlanks r with
  | [] => .error (.ahead .endOfObject [])
  | b :: r => if b = byte ':' then .ok r else .error (.ahead .noColon (b :: r))

/-- The end of a list: where it is closed, or the bytes at which a further part stands. -/
def closeList (r : Bytes) : Except Stop Bytes :=
  match dropBlanks r with
  | [] => .error (.ahead .endOfList [])
  | b :: r =>
    if b = byte ']' then .ok r
    else if b = byte ',' then
      match dropBlanks r with
      | [] => .error (.ahead .trailingCharacters [])
      | c :: r => .error (.ahead (if c = byte ']' then .trailingComma else .trailingCharacters) (c :: r))
    else .error (.ahead .trailingCharacters (b :: r))

/-- The end of an object. -/
def closeObject (r : Bytes) : Except Stop Bytes :=
  match dropBlanks r with
  | [] => .error (.ahead .endOfObject [])
  | b :: r =>
    if b = byte '}' then .ok r
    else .error (.ahead (if b = byte ',' then .trailingComma else .trailingCharacters) (b :: r))

/-- Where an open fault in a list is placed. -/
def listFaultPlace (r : Bytes) : Bytes :=
  match dropBlanks r with
  | b :: r => if b = byte ']' then r else if b = byte ',' then dropBlanks r else b :: r
  | [] => []

/-- Where an open fault in an object is placed. -/
def objectFaultPlace (r : Bytes) : Bytes :=
  match dropBlanks r with
  | b :: r => if b = byte '}' then r else b :: r
  | [] => []

/-- Places an open fault; one that has its place is kept. -/
def Stop.settle (place : Bytes → Bytes) (s : Stop) : Stop :=
  if s.placed then s else { s with rest := place s.rest, placed := true }

/-- Reads the inside of a list and its closing bracket. -/
def inList {α : Type} (inside : Except Stop (α × Bytes)) : Except Stop (α × Bytes) :=
  match inside with
  | .ok (a, r) => (closeList r).map (a, ·)
  | .error s => .error (s.settle listFaultPlace)

/-- Reads the inside of an object and its closing bracket. -/
def inObject {α : Type} (inside : Except Stop (α × Bytes)) : Except Stop (α × Bytes) :=
  match inside with
  | .ok (a, r) => (closeObject r).map (a, ·)
  | .error s => .error (s.settle objectFaultPlace)

/-! ## Loops -/

section Loops

variable {α σ : Type}

/-- The items of a list from the `i`-th on, up to the closing bracket; at most `fuel` of them. -/
def itemsFrom (item : Trail → Bytes → Except Stop (α × Bytes)) (t : Trail) :
    Nat → Nat → List α → Bytes → Except Stop (List α × Bytes)
  | 0, _, _, r => .error (.here .endOfList r)
  | fuel + 1, i, acc, r => do
    let (more, r) ← track t (nextItem (i == 0) r)
    if more then
      let (a, r) ← track (.index i :: t) (item (.index i :: t) r)
      itemsFrom item t fuel (i + 1) (a :: acc) r
    else return (acc.reverse, r)

/-- The items of a list, up to the closing bracket. -/
def items (item : Trail → Bytes → Except Stop (α × Bytes)) (t : Trail) (r : Bytes) :
    Except Stop (List α × Bytes) :=
  itemsFrom item t (r.length + 1) 0 [] r

/-- The members of an object, up to the closing bracket; at most `fuel` of them. `visit` starts
right after a name and reads the colon and the value. -/
def membersFrom (visit : σ → String → Trail → Bytes → Except Stop (σ × Bytes)) (t : Trail) :
    Nat → Bool → σ → Bytes → Except Stop (σ × Bytes)
  | 0, _, _, r => .error (.here .endOfObject r)
  | fuel + 1, first, st, r => do
    let (key, r) ← track (.unknown :: t) (nextKey first r)
    match key with
    | none => return (st, r)
    | some k =>
      let (st, r) ← visit st k t r
      membersFrom visit t fuel false st r

/-- The members of an object, up to the closing bracket. -/
def members (visit : σ → String → Trail → Bytes → Except Stop (σ × Bytes)) (t : Trail) (st : σ)
    (r : Bytes) : Except Stop (σ × Bytes) :=
  membersFrom visit t (r.length + 1) true st r

/-- The colon and the value under the name `k`. -/
def memberValue (k : String) (t : Trail) (r : Bytes) (value : Trail → Bytes → Except Stop (α × Bytes)) :
    Except Stop (α × Bytes) := do
  let r ← track t (colon r)
  track (.key k :: t) (value (.key k :: t) r)

end Loops

/-! ## Values -/

/-- A number, word or string in front, if one stands there. -/
def scalar? (r : Bytes) : Option (Except Stop (Json × Bytes)) :=
  match r with
  | [] => none
  | b :: r' =>
    if b = byte 'n' then some ((word ['u', 'l', 'l'] r').map (.null, ·))
    else if b = byte 't' then some ((word ['r', 'u', 'e'] r').map (.bool true, ·))
    else if b = byte 'f' then some ((word ['a', 'l', 's', 'e'] r').map (.bool false, ·))
    else if b = byte '-' then some ((number true r').map fun (n, r) => (.num n, r))
    else if isDigit b then some ((number false r).map fun (n, r) => (.num n, r))
    else if b = byte '"' then some ((string r').map fun (s, r) => (.str s, r))
    else none

/-- Reads a value that may open `depth - 1` containers. Repeated names are kept. -/
def document : Nat → Trail → Bytes → Except Stop (Json × Bytes)
  | 0, _, r => .error (.ahead .tooDeep r)
  | depth + 1, t, r =>
    let r := dropBlanks r
    match scalar? r with
    | some got => got
    | none =>
      match r with
      | [] => .error (.ahead .endOfValue [])
      | b :: r' =>
        if b = byte '[' then
          if depth = 0 then .error (.ahead .tooDeep r)
          else (inList (items (document depth) t r')).map fun (xs, r) => (.arr xs, r)
        else if b = byte '{' then
          if depth = 0 then .error (.ahead .tooDeep r)
          else
            let visit := fun (m : List (String × Json)) (k : String) (t : Trail) (r : Bytes) => do
              let (j, r) ← memberValue k t r (document depth)
              return ((k, j) :: m, r)
            (inObject (members visit t [] r')).map fun (m, r) => (.obj m.reverse, r)
        else .error (.ahead .noValue r)

/-- The stop for a value that is not what was asked for. Scalars are read first, so that their
faults win. -/
def mismatch (expected : String) (r : Bytes) : Stop :=
  let r := dropBlanks r
  match scalar? r with
  | some (.ok (j, r)) => .here (.wrongType (.ofJson j) expected) r
  | some (.error s) => s
  | none =>
    match r with
    | [] => .ahead .endOfValue []
    | b :: _ =>
      if b = byte '[' then .here (.wrongType .sequence expected) r
      else if b = byte '{' then .here (.wrongType .map expected) r
      else .ahead .noValue r

/-! ## Skipping -/

/-- What is to come while a value is skipped. -/
inductive Skip where
  | value
  /-- Inside a container, after a part of it (`true`) or at its start. -/
  | inside (afterPart : Bool)

/-- Skips a scalar in front. -/
def skipScalar (r : Bytes) : Except Stop Bytes :=
  match r with
  | [] => .error (.ahead .endOfValue [])
  | b :: r' =>
    if b = byte 'n' then word ['u', 'l', 'l'] r'
    else if b = byte 't' then word ['r', 'u', 'e'] r'
    else if b = byte 'f' then word ['a', 'l', 's', 'e'] r'
    else if b = byte '-' then skipNumber r'
    else if isDigit b then skipNumber r
    else if b = byte '"' then skipString r'
    else .error (.ahead .noValue r)

/-- Skips a name and its colon. -/
def skipKey (r : Bytes) : Except Stop Bytes :=
  match dropBlanks r with
  | [] => .error (.ahead .endOfObject [])
  | b :: r => if b = byte '"' then do colon (← skipString r) else .error (.ahead .keyNotString (b :: r))

/-- Skips a value inside the open containers `opened`, the innermost first (`true` for a list); at
most `fuel` steps. -/
def skipRun : Nat → Skip → List Bool → Bytes → Except Stop Bytes
  | 0, _, _, r => .error (.here .endOfValue r)
  | fuel + 1, .value, opened, r =>
    match dropBlanks r with
    | [] => .error (.ahead .endOfValue [])
    | b :: r' =>
      if b = byte '[' then skipRun fuel (.inside false) (true :: opened) r'
      else if b = byte '{' then skipRun fuel (.inside false) (false :: opened) r'
      else do
        let r ← skipScalar (b :: r')
        if opened.isEmpty then return r else skipRun fuel (.inside true) opened r
  | _ + 1, .inside _, [], r => .ok r
  | fuel + 1, .inside afterPart, list :: opened, r =>
    match dropBlanks r with
    | [] => .error (.ahead (if list then .endOfList else .endOfObject) [])
    | b :: r' =>
      if b = (if list then byte ']' else byte '}') then
        if opened.isEmpty then .ok r' else skipRun fuel (.inside true) opened r'
      else if afterPart && b != byte ',' then
        .error (.ahead (if list then .noListSeparator else .noObjectSeparator) (b :: r'))
      else do
        let r := if afterPart then r' else b :: r'
        let r ← if list then pure r else skipKey r
        skipRun fuel .value (list :: opened) r

/-- Skips a value. -/
def skip (r : Bytes) : Except Stop Bytes := skipRun (2 * r.length + 2) .value [] r

/-! ## Whole texts -/

/-- The bytes of a text. -/
def bytesOf (s : String) : Bytes := s.toUTF8.toList

/-- Reads a text that holds one document and blanks. -/
def parseBytes (source : Bytes) : Except Stop Json := do
  let (j, r) ← document depthLimit [] source
  match dropBlanks r with
  | [] => return j.settle
  | r => throw (.ahead .trailingCharacters r)

end Conform.Read

namespace Conform.Json

/-- Reads a text that holds one document; the error is the message with its line and column. -/
def parse (text : String) : Except String Json :=
  let source := Read.bytesOf text
  (Read.parseBytes source).mapError (·.message source)

end Conform.Json
