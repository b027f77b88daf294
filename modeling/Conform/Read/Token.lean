import Conform.Read.Fault
import Conform.Decimal.Scaled

/-!
# Words, numbers and strings of JSON text

Every reader takes the bytes that are left and gives a result with the bytes after it. The `skip`
readers check the form only: a number may be out of range, a surrogate may stand alone, and the
bytes of a string need not be valid text.
-/

namespace Conform.Read

/-- The byte of an ASCII character. -/
abbrev byte (c : Char) : UInt8 := c.toUInt8

/-- The four blanks of JSON. -/
def isBlank (b : UInt8) : Bool := b == 0x20 || b == 0x0a || b == 0x0d || b == 0x09

/-- Drops the blanks in front. -/
def dropBlanks (r : Bytes) : Bytes := r.dropWhile isBlank

/-- An ASCII digit. -/
def isDigit (b : UInt8) : Bool := 0x30 ≤ b && b ≤ 0x39

/-- The digits in front, as characters, and the rest. -/
def spanDigits (r : Bytes) : List Char × Bytes :=
  ((r.takeWhile isDigit).map fun b => Char.ofNat b.toNat, r.dropWhile isDigit)

/-- Reads the letters `w`. -/
def word : List Char → Bytes → Except Stop Bytes
  | [], r => .ok r
  | _ :: _, [] => .error (.here .endOfValue [])
  | c :: w, b :: r => if b = byte c then word w r else .error (.here .badWord r)

/-! ## Numbers -/

/-- The digits of an exponent up to the one that takes it out of the range of 32 bits; `none` when
it stays inside. -/
def exponentOverflow (ds : List Char) : Option Nat :=
  (List.range ds.length).find? fun i => 2147483647 < Text.natOfDigits (ds.take (i + 1))

/-- The number that a numeral stands for: whole without a fraction and an exponent if it fits, else
binary. -/
def numberOf? (plain : Bool) (n : Numeral) : Option Number :=
  let i : Int := Text.natOfDigits n.whole
  let whole :=
    if plain && !(n.negative && i == 0) then Number.ofInt? (if n.negative then -i else i) else none
  match whole with
  | some k => some k
  | none => n.toScaledFloat?.bind Number.ofFloat?

/-- The digits before the point. -/
def wholePart : Bytes → Except Stop (List Char × Bytes)
  | [] => .error (.here .endOfValue [])
  | b :: r =>
    if b = byte '0' then
      match r with
      | d :: _ => if isDigit d then .error (.ahead .badNumber r) else .ok (['0'], r)
      | [] => .ok (['0'], r)
    else if isDigit b then .ok (spanDigits (b :: r))
    else .error (.here .badNumber r)

/-- The fraction, if a point stands in front. -/
def fractionPart : Bytes → Except Stop (Option (List Char) × Bytes)
  | b :: r =>
    if b = byte '.' then
      let (ds, r') := spanDigits r
      if ds.isEmpty then .error (.ahead (if r.isEmpty then .endOfValue else .badNumber) r)
      else .ok (some ds, r')
    else .ok (none, b :: r)
  | [] => .ok (none, [])

/-- Splits the sign of an exponent off. -/
def exponentSign : Bytes → Bool × Bytes
  | b :: r => if b = byte '-' then (true, r) else if b = byte '+' then (false, r) else (false, b :: r)
  | [] => (false, [])

/-- The exponent, if its mark stands in front: the sign, the digits, and the bytes after the
sign. -/
def exponentPart : Bytes → Except Stop (Option (Bool × List Char × Bytes) × Bytes)
  | b :: r =>
    if b = byte 'e' ∨ b = byte 'E' then
      let (neg, r) := exponentSign r
      match r with
      | [] => .error (.here .endOfValue [])
      | d :: r' =>
        if isDigit d then
          let (ds, rest) := spanDigits r
          .ok (some (neg, ds, r), rest)
        else .error (.here .badNumber r')
    else .ok (none, b :: r)
  | [] => .ok (none, [])

/-- Reads a number after its sign. -/
def number (negative : Bool) (r : Bytes) : Except Stop (Number × Bytes) := do
  let (whole, r) ← wholePart r
  let (frac, r) ← fractionPart r
  let (exp, r) ← exponentPart r
  let fraction := frac.getD []
  let nonzero := (whole ++ fraction).any (· != '0')
  match exp with
  | none =>
    match numberOf? frac.isNone ⟨negative, whole, fraction, 0⟩ with
    | some n => .ok (n, r)
    | none => .error (.here .outOfRange r)
  | some (neg, ds, start) =>
    match if nonzero && !neg then exponentOverflow ds else none with
    | some i => .error (.here .outOfRange (start.drop (i + 1)))
    | none =>
      let e : Int := Text.natOfDigits ds
      match numberOf? false ⟨negative, whole, fraction, if neg then -e else e⟩ with
      | some n => .ok (n, r)
      | none => .error (.here .outOfRange r)

/-- Skips a number after its sign. -/
def skipNumber (r : Bytes) : Except Stop Bytes := do
  let r ← match r with
    | [] => .error (.here .badNumber [])
    | b :: r =>
      if b = byte '0' then
        match r with
        | d :: _ => if isDigit d then .error (.ahead .badNumber r) else .ok r
        | [] => .ok r
      else if isDigit b then .ok (r.dropWhile isDigit)
      else .error (.here .badNumber r)
  let r ← match r with
    | b :: r' =>
      if b = byte '.' then
        match r' with
        | d :: _ => if isDigit d then .ok (r'.dropWhile isDigit) else .error (.ahead .badNumber r')
        | [] => .error (.ahead .badNumber r')
      else .ok r
    | [] => .ok r
  match r with
  | b :: r' =>
    if b = byte 'e' ∨ b = byte 'E' then
      match (exponentSign r').2 with
      | [] => .error (.here .badNumber [])
      | d :: r'' => if isDigit d then .ok (r''.dropWhile isDigit) else .error (.here .badNumber r'')
    else .ok r
  | [] => .ok r

/-! ## Strings -/

/-- The value of a hexadecimal digit. -/
def hexVal (b : UInt8) : Option Nat :=
  if isDigit b then some (b.toNat - 0x30)
  else if byte 'a' ≤ b ∧ b ≤ byte 'f' then some (b.toNat - 0x61 + 10)
  else if byte 'A' ≤ b ∧ b ≤ byte 'F' then some (b.toNat - 0x41 + 10)
  else none

/-- The four digits of a `\u` escape. -/
def hexQuad : Bytes → Except Stop (Nat × Bytes)
  | a :: b :: c :: d :: r =>
    match hexVal a, hexVal b, hexVal c, hexVal d with
    | some a, some b, some c, some d => .ok (((a * 16 + b) * 16 + c) * 16 + d, r)
    | _, _, _, _ => .error (.here .badEscape r)
  | _ => .error (.here .endOfString [])

/-- The second half of a surrogate pair whose first half is `high`. -/
def lowSurrogate (high : Nat) : Bytes → Except Stop (List UInt8 × Bytes)
  | [] => .error (.here .endOfString [])
  | b :: r =>
    if b ≠ byte '\\' then .error (.here .shortEscape r)
    else match r with
      | [] => .error (.here .endOfString [])
      | u :: r =>
        if u ≠ byte 'u' then .error (.here .shortEscape r)
        else do
          let (low, r) ← hexQuad r
          if low < 0xdc00 ∨ 0xdfff < low then .error (.here .loneSurrogate r)
          else
            let c := Char.ofNat (0x10000 + (high - 0xd800) * 0x400 + (low - 0xdc00))
            .ok (String.utf8EncodeChar c, r)

/-- The character of a `\u` escape, as bytes. -/
def unicodeEscape (r : Bytes) : Except Stop (List UInt8 × Bytes) := do
  let (n, r) ← hexQuad r
  if 0xdc00 ≤ n ∧ n ≤ 0xdfff then .error (.here .loneSurrogate r)
  else if 0xd800 ≤ n ∧ n ≤ 0xdbff then lowSurrogate n r
  else .ok (String.utf8EncodeChar (Char.ofNat n), r)

/-- The byte that a short escape stands for. -/
def shortEscape? (b : UInt8) : Option UInt8 :=
  if b = byte '"' ∨ b = byte '\\' ∨ b = byte '/' then some b
  else if b = byte 'b' then some 0x08
  else if b = byte 'f' then some 0x0c
  else if b = byte 'n' then some 0x0a
  else if b = byte 'r' then some 0x0d
  else if b = byte 't' then some 0x09
  else none

/-- An escape after its backslash. -/
def escape : Bytes → Except Stop (List UInt8 × Bytes)
  | [] => .error (.here .endOfString [])
  | b :: r =>
    if b = byte 'u' then unicodeEscape r
    else match shortEscape? b with
      | some x => .ok ([x], r)
      | none => .error (.here .badEscape r)

/-- The bytes of a string up to its closing quote, the last ones first; at most `fuel`
characters. -/
def stringBytes : Nat → List UInt8 → Bytes → Except Stop (List UInt8 × Bytes)
  | 0, _, r => .error (.here .endOfString r)
  | _, _, [] => .error (.here .endOfString [])
  | fuel + 1, acc, b :: r =>
    if b = byte '"' then .ok (acc, b :: r)
    else if b = byte '\\' then do
      let (bs, r) ← escape r
      stringBytes fuel (bs.reverse ++ acc) r
    else if b < 0x20 then .error (.here .controlCharacter r)
    else stringBytes fuel (b :: acc) r

/-- Reads a string after its opening quote. -/
def string (r : Bytes) : Except Stop (String × Bytes) := do
  let (bs, r) ← stringBytes (r.length + 1) [] r
  match String.fromUTF8? ⟨bs.reverse.toArray⟩ with
  | some s => .ok (s, r.drop 1)
  | none => .error (.here .badCodePoint r)

/-- Skips a string after its opening quote; at most `fuel` characters. -/
def skipStringFrom : Nat → Bytes → Except Stop Bytes
  | 0, r => .error (.here .endOfString r)
  | _, [] => .error (.here .endOfString [])
  | fuel + 1, b :: r =>
    if b = byte '"' then .ok r
    else if b = byte '\\' then
      match r with
      | [] => .error (.here .endOfString [])
      | e :: r =>
        if e = byte 'u' then do
          let (_, r) ← hexQuad r
          skipStringFrom fuel r
        else if (shortEscape? e).isSome then skipStringFrom fuel r
        else .error (.here .badEscape r)
    else if b < 0x20 then .error (.here .controlCharacter r)
    else skipStringFrom fuel r

/-- Skips a string after its opening quote. -/
def skipString (r : Bytes) : Except Stop Bytes := skipStringFrom (r.length + 1) r

end Conform.Read
