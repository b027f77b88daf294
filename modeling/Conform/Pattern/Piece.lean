import Conform.Pattern.Basic

/-!
# Regular expressions as they are read, and their limits

A piece is an expression with what it costs: how deep its parts stand inside each other, and how
much memory the two automata take that look for a match, one forwards and one backwards over the
bytes of a text. Both are bounded. A repetition with counts is written out, so its weight grows with
them.
-/

namespace Conform.Pattern

/-! ## Weight -/

/-- The memory of the two automata, in bytes. -/
structure Weight where
  ahead : Nat
  back : Nat

namespace Weight

instance : Add Weight := ⟨fun a b => ⟨a.ahead + b.ahead, a.back + b.back⟩⟩

/-- The weight of `n` copies. -/
def times (n : Nat) (w : Weight) : Weight := ⟨n * w.ahead, n * w.back⟩

/-- The weight of all together. -/
def sum (ws : List Weight) : Weight := ws.foldl (· + ·) ⟨0, 0⟩

/-- States of an automaton. -/
def states (n : Nat) : Weight := ⟨32 * n, 32 * n⟩

/-- The arrows of a state that has more than one. -/
def arrows (n : Nat) : Weight := ⟨4 * n, 4 * n⟩

/-- A state with arrows for ranges of bytes, and the state that they meet in. -/
def ranges (n : Nat) : Weight := states 2 + (arrows n).times 2

end Weight

/-- The number of ranges that an ASCII set is written with. -/
def asciiRanges? : CharSet → Option Nat
  | .none => some 0
  | .range _ hi => if hi.toNat < 0x80 then some 1 else none
  | .union a b | .inter a b => do return (← asciiRanges? a) + (← asciiRanges? b)
  | .fold a => (2 * ·) <$> asciiRanges? a
  | _ => none

/-- The weight of a set that is not ASCII. The named sets weigh what the ranges of their bytes take;
for a set that is put together it is an estimate. -/
def wideWeight : CharSet → Weight
  | .none => .states 1
  | .range lo hi => if lo = hi then .states hi.utf8Size else ⟨296, 432⟩
  | .decimal => ⟨1584, 5116⟩
  | .word => ⟨20592, 49964⟩
  | .blank => ⟨424, 684⟩
  | .compl .decimal => ⟨2464, 12736⟩
  | .compl .word => ⟨20008, 46488⟩
  | .compl .blank => ⟨824, 1924⟩
  | .compl a =>
    match asciiRanges? a with
    | some k => ⟨416, 964⟩ + (⟨8, 36⟩ : Weight).times k
    | none => wideWeight a + ⟨416, 964⟩
  | .union a b | .inter a b => wideWeight a + wideWeight b
  | .fold a => (wideWeight a).times 2

/-- The weight of the automata of a set of characters. -/
def setWeight (s : CharSet) : Weight :=
  match asciiRanges? s with
  | some k => .ranges k
  | none => wideWeight s

/-! ## Pieces -/

/-- An expression with its costs. -/
structure Piece where
  regex : Regex
  depth : Nat
  weight : Weight

namespace Piece

/-- The greatest depth. -/
def depthLimit : Nat := 250

/-- The greatest weight of an automaton. -/
def weightLimit : Nat := 10485760

/-- Nothing at all. -/
def empty : Piece := ⟨.empty, 0, .states 1⟩

/-- A change of flags, which matches like nothing at all. -/
def flags : Piece := ⟨.empty, 0, ⟨0, 0⟩⟩

/-- A character, in either case where `fold` says so. -/
def char (fold : Bool) (c : Char) : Piece :=
  if fold then ⟨.set (.fold (.range c c)), 0, setWeight (.fold (.range c c))⟩
  else ⟨.set (.range c c), 0, .states c.utf8Size⟩

/-- A set of characters. -/
def set (s : CharSet) (depth : Nat) : Piece := ⟨.set s, depth, setWeight s⟩

/-- A condition on the place. -/
def look (l : Look) : Piece := ⟨.look l, 0, .states 1⟩

/-- The greatest depth among pieces. -/
def deepest (ps : List Piece) : Nat := ps.foldl (fun d p => max d p.depth) 0

/-- Pieces one after the other. -/
def concat : List Piece → Piece
  | [] => empty
  | [p] => p
  | ps => ⟨ps.foldl (fun r p => .seq r p.regex) .empty, deepest ps + 1, .sum (ps.map (·.weight))⟩

/-- Pieces of which one is to match. -/
def either : List Piece → Piece
  | [] => empty
  | [p] => p
  | p :: ps =>
    ⟨ps.foldl (fun r p => .alt r p.regex) p.regex, deepest (p :: ps) + 1,
      .sum ((p :: ps).map (·.weight)) + .states 2 + .arrows (ps.length + 1)⟩

/-- A piece in brackets, which may keep what it matches. -/
def group (keeps : Bool) (p : Piece) : Piece :=
  ⟨p.regex, p.depth + 1, if keeps then p.weight + ⟨64, 0⟩ else p.weight⟩

/-- A piece again and again. -/
def repeated (p : Piece) (min : Nat) (max : Option Nat) : Piece :=
  let optional := p.weight + .states 1 + .arrows 2
  ⟨.rep p.regex min max, p.depth + 1,
    match max with
    | none => p.weight.times (min - 1) + optional
    | some m => p.weight.times min + optional.times (m - min) + .states 1⟩

/-- Is the piece within the limits? -/
def fits (p : Piece) : Bool :=
  p.depth ≤ depthLimit && p.weight.ahead ≤ weightLimit && p.weight.back ≤ weightLimit

end Piece
end Conform.Pattern
