import Conform.Coerce
import Conform.Proofs.Calendar.Text
import Conform.Proofs.Decimal.Nearest

/-!
# Texts that read as numbers

Every text of a whole number is the text of a binary number, and of an equal one: only the sign of
zero is lost with the whole number.

* `parseFloat?_of_parseInt?`: the two readings of one text;
* `notMem_of_parseFloat?`: a letter that no number has.
-/

namespace Conform

open Float.Model

/-- Zero compares as zero, whatever its sign. -/
theorem negZero_beq (y : Float) : ((-0.0 : Float) == y) = ((0.0 : Float) == y) := by
  have hneg : (Float.toModel (-0.0)).unpack = .zero .negative := rfl
  have hpos : (Float.toModel 0.0).unpack = .zero .positive := rfl
  change ((UnpackedFloat.compare (Float.toModel (-0.0)).unpack y.toModel.unpack) == some .eq) =
    ((UnpackedFloat.compare (Float.toModel 0.0).unpack y.toModel.unpack) == some .eq)
  rw [hneg, hpos]
  cases y.toModel.unpack with
  | notANumber => rfl
  | zero s => rfl
  | infinity s => cases s <;> rfl
  | finite s m e hm => cases s <;> rfl

/-! ## The parts of a text -/

/-- Splits an optional minus off; `true` for a minus. -/
def splitMinus : List Char → Bool × List Char
  | '-' :: r => (true, r)
  | r => (false, r)

theorem mem_splitMinus {c : Char} {cs : List Char} (h : c ∈ cs) :
    c = '-' ∨ c ∈ (splitMinus cs).2 := by
  unfold splitMinus
  split
  · exact List.mem_cons.1 h
  · exact Or.inr h

theorem parseInt?_eq (s : String) : parseInt? s =
    let p := splitMinus s.toList
    if p.2.isEmpty || !p.2.all Char.isDigit then none
    else whole? (if p.1 then -(Text.natOfDigits p.2 : Int) else (Text.natOfDigits p.2 : Int)) := rfl

theorem parseFloat?_eq (s : String) : parseFloat? s =
    (Numeral.unsigned? (splitMinus s.toList).1 (splitMinus s.toList).2).bind fun n =>
      if n.toFloat.isFinite then some n.toFloat else none := by
  simp only [parseFloat?]
  split
  · rename_i n hn
    have hn : Numeral.unsigned? (splitMinus s.toList).1 (splitMinus s.toList).2 = some n := hn
    rw [hn, Option.bind_some]
  · rename_i hn
    have hn : Numeral.unsigned? (splitMinus s.toList).1 (splitMinus s.toList).2 = none := hn
    rw [hn, Option.bind_none]

theorem parseFloat?_eq_some {s : String} {x : Float} : parseFloat? s = some x ↔
    ∃ n, Numeral.unsigned? (splitMinus s.toList).1 (splitMinus s.toList).2 = some n ∧
      n.toFloat.isFinite = true ∧ n.toFloat = x := by
  simp [parseFloat?_eq, Option.bind_eq_some_iff]

/-! ## The two readings of a text -/

/-- Digits alone are a numeral without a fraction. -/
theorem Numeral.unsigned?_digits (neg : Bool) {ds : List Char} (hne : ds ≠ [])
    (hds : ∀ c ∈ ds, c.isDigit = true) : unsigned? neg ds = some ⟨neg, ds, [], 0⟩ := by
  have hspan := Text.spanDigits_run hds (r := []) (by simp)
  rw [List.append_nil] at hspan
  simp [unsigned?, hspan, hne, exponent?]

/-- The binary number of digits with a sign, and that of the whole number. -/
theorem toFloat_digits (neg : Bool) (ds : List Char) {n : Int64}
    (hn : n.toInt = if neg then -(Text.natOfDigits ds : Int) else (Text.natOfDigits ds : Int)) :
    Numeral.toFloat ⟨neg, ds, [], 0⟩ = Value.widen n ∨
      Numeral.toFloat ⟨neg, ds, [], 0⟩ = -0.0 ∧ Value.widen n = 0.0 := by
  have hfloat : Numeral.toFloat ⟨neg, ds, [], 0⟩ =
      if neg then -(Float.ofScientific (Text.natOfDigits ds) false 0)
      else Float.ofScientific (Text.natOfDigits ds) false 0 := by
    simp [Numeral.toFloat]
  rw [hfloat, Value.widen, hn]
  generalize Text.natOfDigits ds = k
  cases neg with
  | false => exact Or.inl rfl
  | true =>
    cases k with
    | zero => exact Or.inr ⟨rfl, rfl⟩
    | succ k => exact Or.inl rfl

/-- **The two readings of a text.** A text that reads as a whole number reads as a binary number
that compares as the whole number does. -/
theorem parseFloat?_of_parseInt? {s : String} {n : Int64} (h : parseInt? s = some n) :
    ∃ x, parseFloat? s = some x ∧ ∀ y, (x == y) = (Value.widen n == y) := by
  rw [parseInt?_eq] at h
  dsimp only at h
  split at h
  · simp at h
  rename_i hds
  obtain ⟨hne, hds⟩ : (splitMinus s.toList).2 ≠ [] ∧
    ∀ c ∈ (splitMinus s.toList).2, c.isDigit = true := by simpa using hds
  refine ⟨_, parseFloat?_eq_some.2 ⟨_, Numeral.unsigned?_digits _ hne hds, ?_, rfl⟩, fun y => ?_⟩
  all_goals
    rcases toFloat_digits _ (splitMinus s.toList).2 ((whole?_eq_some_iff _ _).1 h) with
      hx | ⟨hx, hw⟩
  · rw [hx]
    exact Binary.isFinite_widen n
  · rw [hx]
    rfl
  · rw [hx]
  · rw [hx, hw, negZero_beq]

/-! ## The letters of numbers -/

theorem mem_spanDigits {c : Char} {cs : List Char} (hc : c.isDigit = false) (h : c ∈ cs) :
    c ∈ (Text.spanDigits cs).2 := by
  rw [← Text.spanDigits_append cs, List.mem_append] at h
  refine h.resolve_left fun hmem => ?_
  simp [Text.spanDigits_all cs c hmem] at hc

/-- A character that no numeral has: no digit, and none of the others. -/
def Numeral.Strange (c : Char) : Prop := c.isDigit = false ∧ c ∉ ['-', '+', '.', 'e', 'E']

theorem Numeral.notMem_of_exponent? {c : Char} (hc : Strange c) {cs : List Char} {e : Int}
    (h : exponent? cs = some (e, [])) : c ∉ cs := by
  have hne : c ≠ '-' ∧ c ≠ '+' ∧ c ≠ '.' ∧ c ≠ 'e' ∧ c ≠ 'E' := by simpa using hc.2
  have hsign : ∀ r, c ∈ r → c ∈ (sign? r).2 := by
    intro r hr
    unfold sign?
    split <;> simp_all
  unfold exponent? at h
  split at h
  · rename_i mark r
    split at h
    · rename_i hmark
      have hother : c ≠ mark := by
        rintro rfl
        exact hmark.elim hne.2.2.2.1 hne.2.2.2.2
      intro hmem
      have hr : c ∈ r := (List.mem_cons.1 hmem).resolve_left hother
      have hrest := mem_spanDigits hc.1 (hsign r hr)
      split at h
      rename_i neg r₁ h₁
      split at h
      rename_i ds r₂ h₂
      rw [h₁, h₂] at hrest
      split at h
      · simp at h
      · obtain ⟨-, rfl⟩ : _ ∧ r₂ = [] := by simpa using h
        simp at hrest
    · simp at h
  · simp

/-- What is left of a numeral behind its digits, and behind its fraction if it has one, is an
exponent. -/
theorem Numeral.exponent?_of_unsigned? {neg : Bool} {cs : List Char} {n : Numeral}
    (h : unsigned? neg cs = some n) : ∃ r e, exponent? r = some (e, []) ∧
      ((Text.spanDigits cs).2 = r ∨
        ∃ r', (Text.spanDigits cs).2 = '.' :: r' ∧ (Text.spanDigits r').2 = r) := by
  simp only [unsigned?] at h
  split at h
  · rename_i r' hr'
    split at h
    · simp at h
    · split at h
      · rename_i e he
        exact ⟨_, e, he, Or.inr ⟨r', hr', rfl⟩⟩
      · simp at h
  · split at h
    · simp at h
    · split at h
      · rename_i e he
        exact ⟨_, e, he, Or.inl rfl⟩
      · simp at h

theorem Numeral.notMem_of_unsigned? {c : Char} (hc : Strange c) {neg : Bool} {cs : List Char}
    {n : Numeral} (h : unsigned? neg cs = some n) : c ∉ cs := by
  intro hmem
  have hrest := mem_spanDigits hc.1 hmem
  obtain ⟨r, e, he, rfl | ⟨r', hr', rfl⟩⟩ := exponent?_of_unsigned? h
  · exact notMem_of_exponent? hc he hrest
  · rw [hr'] at hrest
    have hpoint : c ≠ '.' := by
      rintro rfl
      exact hc.2 (by simp)
    have hr' : c ∈ r' := (List.mem_cons.1 hrest).resolve_left hpoint
    exact notMem_of_exponent? hc he (mem_spanDigits hc.1 hr')

/-- No number has the letter that stands before a time. -/
theorem notMem_of_parseFloat? {s : String} {x : Float} (h : parseFloat? s = some x) :
    'T' ∉ s.toList := by
  obtain ⟨n, hn, -, -⟩ := parseFloat?_eq_some.1 h
  intro hmem
  rcases mem_splitMinus hmem with hT | hmem
  · simp at hT
  · exact Numeral.notMem_of_unsigned? ⟨by decide, by decide⟩ hn hmem

end Conform
