import Conform.Text.Blank
import Conform.Text.Digit
import Conform.Text.Fold
import Conform.Text.Word

/-!
# Regular expressions

A regular expression is a term over sets of characters and conditions on a place. `Regex.reach`
sends a set of places of a text to the set of places where a match that starts in it can end; a text
matches when this set is not empty for all places together. Sets of places are vectors of truth
values, one a place, so that a match takes time polynomial in the text and the expression.
-/

namespace Conform

/-- A set of characters. -/
inductive CharSet where
  | none
  | range (lo hi : Char)
  | decimal
  | word
  | blank
  | compl (a : CharSet)
  | union (a b : CharSet)
  | inter (a b : CharSet)
  /-- The characters that differ from one of `a` in case only. -/
  | fold (a : CharSet)

/-- Does the set hold the character? -/
def CharSet.has : CharSet → Char → Bool
  | .none, _ => false
  | .range lo hi, c => lo ≤ c && c ≤ hi
  | .decimal, c => Text.isDecimal c
  | .word, c => Text.isWord c
  | .blank, c => Text.isBlank c
  | .compl a, c => !a.has c
  | .union a b, c => a.has c || b.has c
  | .inter a b, c => a.has c && b.has c
  | .fold a, c => (Text.orbit c).any a.has

/-- A condition on a place of a text. -/
inductive Look where
  | textStart
  | textEnd
  | lineStart
  | lineEnd
  | wordEdge
  | notWordEdge
  | wordStart
  | wordEnd
  | wordStartHalf
  | wordEndHalf

/-- A place of a text: the character before it and the one after it. -/
structure Spot where
  before : Option Char
  after : Option Char

/-- Is there a word character? -/
def isWord? : Option Char → Bool
  | some c => Text.isWord c
  | none => false

/-- Does the condition hold at the place? -/
def Look.holds (l : Look) (p : Spot) : Bool :=
  let b := isWord? p.before
  let a := isWord? p.after
  match l with
  | .textStart => p.before.isNone
  | .textEnd => p.after.isNone
  | .lineStart => p.before.isNone || p.before == some '\n'
  | .lineEnd => p.after.isNone || p.after == some '\n'
  | .wordEdge => b != a
  | .notWordEdge => b == a
  | .wordStart => !b && a
  | .wordEnd => b && !a
  | .wordStartHalf => !b
  | .wordEndHalf => !a

/-- A regular expression. -/
inductive Regex where
  | empty
  | set (s : CharSet)
  | look (l : Look)
  | seq (a b : Regex)
  | alt (a b : Regex)
  /-- At least `min` times and at most `max` times. -/
  | rep (a : Regex) (min : Nat) (max : Option Nat)

/-- The places of a text that starts after the character `before`. -/
def spots (before : Option Char) : List Char → List Spot
  | [] => [⟨before, none⟩]
  | c :: r => ⟨before, some c⟩ :: spots (some c) r

/-- A set of places, as one truth value a place. -/
abbrev Places := List Bool

namespace Places

/-- All places of either set. -/
def union (a b : Places) : Places := List.zipWith (· || ·) a b

/-- One step forward over a character of the set. -/
def step (s : CharSet) (cs : List Char) (p : Places) : Places :=
  false :: List.zipWith (fun b c => b && s.has c) p cs

/-- Adds what `f` reaches, again and again until nothing is new; at most `fuel` times. -/
def closure (f : Places → Places) : Nat → Places → Places
  | 0, p => p
  | fuel + 1, p =>
    let q := union p (f p)
    if q == p then p else closure f fuel q

/-- Applies `f` exactly `n` times. -/
def times (f : Places → Places) : Nat → Places → Places
  | 0, p => p
  | n + 1, p => if p.any id then times f n (f p) else p

end Places

/-- The places where a match that starts in `p` can end. -/
def Regex.reach (cs : List Char) (ss : List Spot) : Regex → Places → Places
  | .empty, p => p
  | .set s, p => Places.step s cs p
  | .look l, p => List.zipWith (fun b s => b && l.holds s) p ss
  | .seq a b, p => b.reach cs ss (a.reach cs ss p)
  | .alt a b, p => Places.union (a.reach cs ss p) (b.reach cs ss p)
  | .rep a min max, p =>
    let q := Places.times (a.reach cs ss) min p
    match max with
    | none => Places.closure (a.reach cs ss) (cs.length + 1) q
    | some m => Places.closure (a.reach cs ss) (m - min) q

/-- Is there a match anywhere in the text? -/
def Regex.matches (r : Regex) (s : String) : Bool :=
  let cs := s.toList
  let ss := spots none cs
  (r.reach cs ss (ss.map fun _ => true)).any id

end Conform
