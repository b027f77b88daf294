import Conform.Read.Document
import Conform.Read.Shape

/-!
# Shapes in text

The readers of structures that go through a text from left to right, so that faults come in the
order of the text. A term with variants is kept whole before its parts are looked at: the faults of
its parts are placed after it.
-/

namespace Conform.Read

/-- A part of a text: the number of containers that may be opened, the trail, and the bytes. -/
abbrev Reader (α : Type) := Nat → Trail → Bytes → Except Stop (α × Bytes)

section Readers

variable {α σ : Type}

/-- The next byte is the bracket `c`. -/
def startsWith (c : Char) (r : Bytes) : Bool := r.head? == some (byte c)

/-- Opens a container, unless too many are open. -/
def deeper (depth : Nat) (r : Bytes) (inside : Nat → Bytes → Except Stop (α × Bytes)) :
    Except Stop (α × Bytes) :=
  if depth ≤ 1 then .error (.ahead .tooDeep r) else inside (depth - 1) (r.drop 1)

/-- Reads a text. -/
def textValue : Reader String := fun _ _ r =>
  let r := dropBlanks r
  if startsWith '"' r then string (r.drop 1) else .error (mismatch "a string" r)

/-- Reads a text or null. -/
def optionalText : Reader (Option String) := fun depth t r =>
  let r := dropBlanks r
  if startsWith 'n' r then (word ['u', 'l', 'l'] (r.drop 1)).map (none, ·)
  else (textValue depth t r).map fun (s, r) => (some s, r)

/-- Reads a document. -/
def anyValue : Reader Json := fun depth t r => document depth t r

/-- Passes over a value. -/
def ignored : Reader Unit := fun _ _ r => (skip r).map ((), ·)

/-- Reads a list. -/
def listValue (item : Reader α) : Reader (List α) := fun depth t r =>
  let r := dropBlanks r
  if startsWith '[' r then deeper depth r fun depth r => inList (items (item depth) t r)
  else .error (mismatch "a sequence" r)

/-- The parts of a structure, read from text. -/
structure SourceShape (σ α : Type) where
  expected : String
  known : List String
  start : σ
  step : String → σ → Reader σ
  finish : (String → Fault) → σ → Except Fault α

namespace SourceShape

/-- Takes up the member `k`. Unknown names are passed over, known ones may stand once. -/
def visit (s : SourceShape σ α) (depth : Nat) (st : List String × σ) (k : String) (t : Trail)
    (r : Bytes) : Except Stop ((List String × σ) × Bytes) :=
  if s.known.contains k then
    if st.1.contains k then .error (.loose (.repeatedField k) r)
    else (memberValue k t r fun t r => s.step k st.2 depth t r).map fun (x, r) => ((k :: st.1, x), r)
  else (memberValue k t r (ignored depth)).map fun (_, r) => (st, r)

/-- Takes up items in the order of the names, as far as there are items. -/
def elements (s : SourceShape σ α) (depth : Nat) (t : Trail) :
    List String → Nat → σ → Bytes → Except Stop (σ × Bytes)
  | [], _, st, r => .ok (st, r)
  | k :: ks, i, st, r => do
    let (more, r) ← track t (nextItem (i == 0) r)
    if more then
      let (st, r) ← track (.index i :: t) (s.step k st depth (.index i :: t) r)
      s.elements depth t ks (i + 1) st r
    else return (st, r)

/-- Ends a structure at the bytes `r`. -/
def ends (s : SourceShape σ α) (absent : String → Fault) (st : σ) (r : Bytes) :
    Except Stop (α × Bytes) :=
  match s.finish absent st with
  | .ok a => .ok (a, r)
  | .error f => .error (.loose f r)

/-- Reads a structure, written as an object or as an array. -/
def read (s : SourceShape σ α) : Reader α := fun depth t r =>
  let r := dropBlanks r
  if startsWith '[' r then
    deeper depth r fun depth r => inList do
      let (st, r) ← s.elements depth t s.known 0 s.start r
      s.ends (fun k => .wrongLength (s.known.idxOf k)
        (s.expected ++ " with " ++ Shape.counted s.known.length)) st r
  else if startsWith '{' r then
    deeper depth r fun depth r => inObject do
      let (st, r) ← members (s.visit depth) t ([], s.start) r
      s.ends .missingField st.2 r
  else .error (mismatch s.expected r)

end SourceShape

namespace Variants

/-- Reads the name of a variant. -/
def readTag (v : Variants α) (r : Bytes) : Except Stop (String × Bytes) :=
  let r := dropBlanks r
  if startsWith '"' r then do
    let (s, r) ← string (r.drop 1)
    if v.known.contains s then return (s, r) else throw (.here (.unknownVariant s v.known) r)
  else .error (mismatch "variant identifier" r)

/-- Takes up a member of a term: the name of its variant, once, or a part. -/
def visit (v : Variants α) (depth : Nat) (st : Option String × List (String × Json))
    (k : String) (t : Trail) (r : Bytes) :
    Except Stop ((Option String × List (String × Json)) × Bytes) :=
  if k = v.tag then
    if st.1.isSome then .error (.loose (.repeatedField v.tag) r)
    else (memberValue k t r fun _ r => v.readTag r).map fun (s, r) => ((some s, st.2), r)
  else (memberValue k t r (document depth)).map fun (j, r) => ((st.1, (k, j) :: st.2), r)

/-- Reads a term whole: the name of its variant and its parts. -/
def readBody (v : Variants α) : Reader (String × Body) := fun depth t r =>
  let r := dropBlanks r
  if startsWith '[' r then
    deeper depth r fun depth r => inList do
      let (more, r) ← track t (nextItem true r)
      if more then
        let (tag, r) ← track (.index 0 :: t) (v.readTag r)
        let (xs, r) ← itemsFrom (document depth) t (r.length + 1) 1 [] r
        return ((tag, .elements xs), r)
      else throw (.loose (.missingField v.tag) r)
  else if startsWith '{' r then
    deeper depth r fun depth r => inObject do
      let ((tag, m), r) ← members (v.visit depth) t (none, []) r
      match tag with
      | some tag => return ((tag, .members m.reverse), r)
      | none => throw (.loose (.missingField v.tag) r)
  else .error (mismatch ("internally tagged enum " ++ v.name) r)

/-- Reads a term. -/
def read (v : Variants α) : Reader α := fun depth t r => do
  let ((tag, b), r) ← v.readBody depth t r
  match v.decode tag b with
  | .ok a => return (a, r)
  | .error f => throw (.loose f r)

end Variants

/-- A fault of a text: the path to the part, and the message. -/
structure SourceFault where
  path : String
  message : String

/-- Reads the first value of a text; what follows it is not looked at. -/
def source (read : Reader α) (bytes : Bytes) : Except SourceFault α :=
  match track [] (read depthLimit [] bytes) with
  | .ok (a, _) => .ok a
  | .error s => .error ⟨Trail.text (s.trail.getD []), s.message bytes⟩

end Readers
end Conform.Read
