import Conform.Decimal.Shortest

/-!
# Decimal text of binary numbers

`Layout` holds what a format decides: for which leading powers of ten a number is written without an
exponent, whether a whole number keeps a fraction, and how an exponent is signed. The digits are
always the shortest ones.
-/

namespace Conform

/-- How a decimal is written. -/
structure Layout where
  /-- Is a number whose first digit stands at this power of ten written without an exponent? -/
  plain : Int → Bool
  /-- A whole number is written with the fraction `.0`. -/
  fraction : Bool
  /-- An exponent that is not negative has a plus sign. -/
  plus : Bool

/-- A finite binary number, plus or minus `significand · 2 ^ exponent`. -/
structure Binary where
  negative : Bool
  significand : Nat
  exponent : Int

/-- The sign, significand and exponent that a number's bits hold. -/
def Binary.ofFloat (x : Float) : Binary :=
  let b : Nat := x.toBits.toNat
  let e : Nat := b / Nat.pow 2 52 % Nat.pow 2 11
  let m : Nat := b % Nat.pow 2 52
  ⟨b / Nat.pow 2 63 == 1, if e = 0 then m else m + Nat.pow 2 52,
    if e = 0 then -1074 else (e : Int) - 1075⟩

namespace Layout

/-- A run of `n` zeros. -/
def zeros (n : Nat) : String := String.ofList (List.replicate n '0')

/-- The digits `ds`, the first at the power `lead`, without an exponent. -/
def writePlain (l : Layout) (ds : List Char) (lead : Int) : String :=
  if lead < 0 then "0." ++ zeros (-lead - 1).toNat ++ String.ofList ds
  else
    let whole := lead.toNat + 1
    if ds.length ≤ whole then
      String.ofList ds ++ zeros (whole - ds.length) ++ if l.fraction then ".0" else ""
    else String.ofList (ds.take whole) ++ "." ++ String.ofList (ds.drop whole)

/-- The digits `ds`, the first at the power `lead`, with an exponent. -/
def writeScientific (l : Layout) (ds : List Char) (lead : Int) : String :=
  let point := if ds.length ≤ 1 then "" else "."
  String.ofList (ds.take 1) ++ point ++ String.ofList (ds.drop 1) ++ "e" ++
    (if lead < 0 then "-" else if l.plus then "+" else "") ++ toString lead.natAbs

/-- The text of a decimal. -/
def write (l : Layout) (d : Decimal) : String :=
  let ds := Nat.toDigits 10 d.digits
  if l.plain d.lead then l.writePlain ds d.lead else l.writeScientific ds d.lead

/-- The text of a binary number. -/
def text (l : Layout) (x : Float) : String :=
  if x.isNaN then "NaN"
  else
    let b := Binary.ofFloat x
    let sign := if b.negative then "-" else ""
    if x.isInf then sign ++ "inf"
    else sign ++ l.write (if b.significand = 0 then ⟨0, 0⟩ else Decimal.shortest b.significand b.exponent)

end Layout
end Conform
