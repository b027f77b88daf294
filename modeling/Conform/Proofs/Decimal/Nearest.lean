import Conform.Proofs.Decimal.Bits
import Conform.Value.Basic
import Mathlib

/-!
# Whole numbers as binary numbers

A binary number has 53 bits. A whole number of 64 bits that needs more of them is rounded: to the
nearest number that has 53, and from the middle between two to the one whose last bit is zero.

* `nearest`, `nearestInt`: the rounding, in whole numbers only;
* `Whole`: a binary number that is whole, and `Whole.compare`, that such numbers compare as the
  whole numbers do;
* `stands_toFloat`, `stands_widen`: the binary number of a whole number is the nearest;
* `Stands.compareFloat?`, `Stands.beq`: what the comparisons of these binary numbers say.
-/

namespace Conform.Binary

open Float.Model
open Float.Model.UnpackedFloat

/-! ## Rounding to a unit -/

/-- `m` in units of `u`, to the nearest; from the middle it goes to the even side. -/
def roundEven (m u : Nat) : Nat :=
  if 2 * (m % u) < u ∨ 2 * (m % u) = u ∧ m / u % 2 = 0 then m / u else m / u + 1

section roundEven

variable {m n u : Nat}

theorem roundEven_bounds (m u : Nat) : m / u ≤ roundEven m u ∧ roundEven m u ≤ m / u + 1 := by
  rw [roundEven]
  split <;> omega

theorem roundEven_mul (q : Nat) (hu : 0 < u) : roundEven (q * u) u = q := by
  rw [roundEven, Nat.mul_mod_left, Nat.mul_div_cancel _ hu, if_pos (by omega)]

theorem roundEven_mul_mul {c : Nat} (m u : Nat) (hc : 0 < c) :
    roundEven (m * c) (u * c) = roundEven m u := by
  have hlt : 2 * (m % u * c) < u * c ↔ 2 * (m % u) < u := by
    rw [← Nat.mul_assoc]
    exact Nat.mul_lt_mul_right hc
  have heq : 2 * (m % u * c) = u * c ↔ 2 * (m % u) = u := by
    rw [← Nat.mul_assoc]
    exact Nat.mul_left_inj (Nat.ne_of_gt hc)
  simp only [roundEven, Nat.mul_div_mul_right _ _ hc, Nat.mul_mod_mul_right, hlt, heq]

theorem roundEven_mono (u : Nat) (h : m ≤ n) : roundEven m u ≤ roundEven n u := by
  have hm := Nat.div_add_mod m u
  have hn := Nat.div_add_mod n u
  rcases Nat.lt_or_eq_of_le (Nat.div_le_div_right h : m / u ≤ n / u) with hlt | heq
  · have := roundEven_bounds m u
    have := roundEven_bounds n u
    omega
  · -- in one unit the greater remainder is rounded up whenever the smaller one is
    have hmod : m % u ≤ n % u := by
      rw [heq] at hm
      omega
    rw [roundEven, roundEven, heq]
    split <;> split <;> omega

/-- To a unit that leaves 53 bits. The carry of rounding up may add one. -/
theorem roundEven_two_pow {p : Nat} (hp : 52 ≤ p) (hlo : 2 ^ p ≤ m) (hhi : m < 2 ^ (p + 1)) :
    2 ^ 52 ≤ roundEven m (2 ^ (p - 52)) ∧ roundEven m (2 ^ (p - 52)) ≤ 2 ^ 53 := by
  have hpow : 2 ^ p = 2 ^ 52 * 2 ^ (p - 52) := by rw [← Nat.pow_add, Nat.add_sub_cancel' hp]
  have hu : 0 < 2 ^ (p - 52) := Nat.two_pow_pos _
  have hle : 2 ^ 52 ≤ m / 2 ^ (p - 52) := (Nat.le_div_iff_mul_le hu).2 (by omega)
  have hlt : m / 2 ^ (p - 52) < 2 ^ 53 := (Nat.div_lt_iff_lt_mul hu).2 (by omega)
  have := roundEven_bounds m (2 ^ (p - 52))
  omega

end roundEven

/-- The nearest of the whole numbers that have 53 bits, up to zeros at the end. -/
def nearest (n : Nat) : Nat := roundEven n (2 ^ (n.log2 - 52)) * 2 ^ (n.log2 - 52)

theorem nearest_of_lt {n : Nat} (hn : n < 2 ^ 53) : nearest n = n := by
  have hlog : n.log2 - 52 = 0 := by
    by_cases h : n = 0
    · simp [h]
    · have := (Nat.log2_lt h).2 hn
      omega
  simpa [nearest, hlog] using roundEven_mul n (u := 1) (by decide)

/-- Rounding does not go past a power of two. -/
theorem nearest_bounds {n : Nat} (hn : n ≠ 0) :
    2 ^ n.log2 ≤ nearest n ∧ nearest n ≤ 2 ^ (n.log2 + 1) := by
  have hlo := Nat.log2_self_le hn
  have hhi := Nat.lt_log2_self (n := n)
  by_cases hsmall : n < 2 ^ 53
  · rw [nearest_of_lt hsmall]
    omega
  · have hlog : 52 ≤ n.log2 := (Nat.le_log2 hn).2 (by omega)
    obtain ⟨hle, hge⟩ := roundEven_two_pow hlog hlo hhi
    have hpow : 2 ^ n.log2 = 2 ^ 52 * 2 ^ (n.log2 - 52) := by
      rw [← Nat.pow_add, Nat.add_sub_cancel' hlog]
    rw [nearest, Nat.pow_succ, hpow]
    constructor
    · exact Nat.mul_le_mul_right _ hle
    · rw [Nat.mul_right_comm]
      exact Nat.mul_le_mul_right _ hge

/-- **Rounding keeps the order.** -/
theorem nearest_mono {m n : Nat} (h : m ≤ n) : nearest m ≤ nearest n := by
  by_cases hm : m = 0
  · simp [hm, nearest_of_lt]
  have hn : n ≠ 0 := by omega
  have hlog : m.log2 ≤ n.log2 := (Nat.le_log2 hn).2 ((Nat.log2_self_le hm).trans h)
  rcases Nat.lt_or_eq_of_le hlog with hlt | heq
  · calc nearest m ≤ 2 ^ (m.log2 + 1) := (nearest_bounds hm).2
      _ ≤ 2 ^ n.log2 := Nat.pow_le_pow_right (by decide) hlt
      _ ≤ nearest n := (nearest_bounds hn).1
  · rw [nearest, nearest, heq]
    exact Nat.mul_le_mul_right _ (roundEven_mono _ h)

/-- The nearest of the whole numbers with 53 bits and a sign. -/
def nearestInt : Int → Int
  | .ofNat n => nearest n
  | .negSucc n => -nearest (n + 1)

theorem nearestInt_mono {i j : Int} (h : i ≤ j) : nearestInt i ≤ nearestInt j := by
  match i, j with
  | .ofNat m, .ofNat n => exact Int.ofNat_le.2 (nearest_mono (Int.ofNat_le.1 h))
  | .negSucc m, .ofNat n =>
    rw [nearestInt, nearestInt]
    omega
  | .negSucc m, .negSucc n =>
    have := nearest_mono (m := n + 1) (n := m + 1) (by omega)
    rw [nearestInt, nearestInt]
    omega
  | .ofNat m, .negSucc n => exact absurd h (by simp only [Int.ofNat_eq_natCast]; omega)

theorem compare_nearestInt {i j : Int} (h : nearestInt i ≠ nearestInt j) :
    compare (nearestInt i) (nearestInt j) = compare i j := by
  rcases lt_trichotomy i j with hlt | rfl | hgt
  · rw [compare_lt_iff_lt.2 hlt, compare_lt_iff_lt]
    exact lt_of_le_of_ne (nearestInt_mono hlt.le) h
  · exact absurd rfl h
  · rw [compare_gt_iff_gt.2 hgt, compare_gt_iff_gt]
    exact lt_of_le_of_ne (nearestInt_mono hgt.le) h.symm

/-! ## Rounding of mantissas -/

/-- The mark of a fraction after one more bit `b` in front of it. -/
theorem accuracy_bit {q r u b : Nat} (hb : b < 2) (hr : r < u) :
    ExtendedMantissa.accuracy ⟨q, b != 0, r != 0⟩ = accuracyOfFraction (r + u * b) (u * 2) := by
  obtain rfl | rfl : b = 0 ∨ b = 1 := by omega
  · by_cases h : r = 0
    · simp [ExtendedMantissa.accuracy, accuracyOfFraction, h]
    · have hlt : compare (2 * r) (u * 2) = .lt := compare_lt_iff_lt.2 (by omega)
      have hbit : (r != 0) = true := by simpa using h
      simp [ExtendedMantissa.accuracy, accuracyOfFraction, h, hbit, hlt]
  · by_cases h : r = 0
    · have heq : compare (2 * u) (u * 2) = .eq := compare_eq_iff_eq.2 (by omega)
      simp [ExtendedMantissa.accuracy, accuracyOfFraction, h, heq]
      omega
    · have hgt : compare (2 * (r + u)) (u * 2) = .gt := compare_gt_iff_gt.2 (by omega)
      have hbit : (r != 0) = true := by simpa using h
      simp [ExtendedMantissa.accuracy, accuracyOfFraction, h, hbit, hgt]

theorem bits_of_accuracy {q r u : Nat} {round sticky : Bool}
    (h : ExtendedMantissa.accuracy ⟨q, round, sticky⟩ = accuracyOfFraction r u) :
    (round || sticky) = (r != 0) := by
  by_cases hr : r = 0
  · cases round <;> cases sticky <;>
      simp_all [ExtendedMantissa.accuracy, accuracyOfFraction]
  · cases round <;> cases sticky <;>
      simp_all [ExtendedMantissa.accuracy, accuracyOfFraction]

theorem ofMantissaAndAccuracy_eq (m : Nat) (a : Accuracy) :
    (ExtendedMantissa.ofMantissaAndAccuracy m a).mantissa = m ∧
    (ExtendedMantissa.ofMantissaAndAccuracy m a).accuracy = a := by
  obtain _ | (_ | _ | _) := a <;> exact ⟨rfl, rfl⟩

section fraction

variable {u : Nat} (n k : Nat) (hu : 0 < u)
include hu

/-- Shifts keep what has to be known of the bits that they drop, and of a fraction in units of `u`
that was dropped before. -/
theorem shiftRight_fraction :
    (ExtendedMantissa.ofMantissaAndAccuracy (n / u) (accuracyOfFraction (n % u) u) >>> k).mantissa =
      n / (u * 2 ^ k) ∧
    (ExtendedMantissa.ofMantissaAndAccuracy (n / u) (accuracyOfFraction (n % u) u) >>> k).accuracy =
      accuracyOfFraction (n % (u * 2 ^ k)) (u * 2 ^ k) := by
  induction k with
  | zero =>
    rw [Nat.pow_zero, Nat.mul_one]
    exact ofMantissaAndAccuracy_eq _ _
  | succ k ih =>
    have hstep : ∀ em : ExtendedMantissa, em >>> (k + 1) = (em >>> k).shiftRightOne := fun _ => rfl
    rw [hstep]
    generalize ExtendedMantissa.ofMantissaAndAccuracy (n / u) _ >>> k = em at ih
    obtain ⟨q, round, sticky⟩ := em
    obtain ⟨hq, ha⟩ := ih
    obtain rfl : q = n / (u * 2 ^ k) := hq
    constructor
    · rw [ExtendedMantissa.shiftRightOne, Nat.div_div_eq_div_mul, Nat.mul_assoc, Nat.pow_succ]
    · rw [ExtendedMantissa.shiftRightOne, bits_of_accuracy ha, Nat.pow_succ, ← Nat.mul_assoc,
        Nat.mod_mul (x := n) (a := u * 2 ^ k)]
      exact accuracy_bit (Nat.mod_lt _ (by decide)) (Nat.mod_lt _ (Nat.mul_pos hu (Nat.two_pow_pos k)))

theorem roundedMantissa_fraction :
    (ExtendedMantissa.ofMantissaAndAccuracy (n / u) (accuracyOfFraction (n % u) u) >>> k).roundedMantissa =
      roundEven n (u * 2 ^ k) := by
  obtain ⟨hq, ha⟩ := shiftRight_fraction n k hu
  have hunit : 0 < u * 2 ^ k := Nat.mul_pos hu (Nat.two_pow_pos k)
  rw [ExtendedMantissa.roundedMantissa, hq, ha, accuracyOfFraction, roundEven]
  generalize u * 2 ^ k = u at hunit
  split
  · rw [if_pos (by omega)]
    rfl
  · rcases lt_trichotomy (2 * (n % u)) u with h | h | h
    · rw [compare_lt_iff_lt.2 h, if_pos (Or.inl h)]
      rfl
    · rw [compare_eq_iff_eq.2 h, Accuracy.roundToNearestEven]
      split <;> omega
    · rw [compare_gt_iff_gt.2 h, if_neg (by omega)]
      rfl

end fraction

theorem shiftRight_exact (m k : Nat) :
    (ExtendedMantissa.ofMantissaAndAccuracy m .exact >>> k).mantissa = m / 2 ^ k := by
  simpa [Nat.mod_one, accuracyOfFraction] using (shiftRight_fraction m k Nat.one_pos).1

theorem roundedMantissa_shiftRight (m k : Nat) :
    (ExtendedMantissa.ofMantissaAndAccuracy m .exact >>> k).roundedMantissa = roundEven m (2 ^ k) := by
  simpa [Nat.mod_one, accuracyOfFraction] using roundedMantissa_fraction m k Nat.one_pos

/-! ## Rounding of numbers -/

theorem log2_eq {m p : Nat} (hlo : 2 ^ p ≤ m) (hhi : m < 2 ^ (p + 1)) : m.log2 = p := by
  have hp := Nat.two_pow_pos p
  exact (Nat.log2_eq_iff (by omega)).2 ⟨hlo, hhi⟩

/-- A number of at least 53 bits is shifted until it has 53. -/
theorem shiftToTargetExponent_eq {m p : Nat} {e : Int} (hp : 52 ≤ p) (hlo : 2 ^ p ≤ m)
    (hhi : m < 2 ^ (p + 1)) (he : -1022 ≤ p + e) : shiftToTargetExponent .binary64 m e .exact =
      (ExtendedMantissa.ofMantissaAndAccuracy m .exact >>> (p - 52), e + (p - 52 : Nat)) := by
  have hshift : (Format.binary64.targetExponent (totalExponent m e) - e).toNat = p - 52 := by
    simp only [totalExponent, Format.targetExponent, Format.minExponent, Format.mantissaBits,
      log2_eq hlo hhi]
    omega
  rw [shiftToTargetExponent, shiftToExponent, hshift]

/-- The second shift of a rounding takes off the bit that was carried, if there is one. -/
theorem shiftToTargetExponent_carry {r : Nat} {e : Int} (hlo : 2 ^ 52 ≤ r) (hhi : r ≤ 2 ^ 53)
    (he : -1074 ≤ e) : ∃ q c : Nat, (shiftToTargetExponent .binary64 r e .exact).1.mantissa = q ∧
      (shiftToTargetExponent .binary64 r e .exact).2 = e + c ∧
      2 ^ 52 ≤ q ∧ q < 2 ^ 53 ∧ c ≤ 1 ∧ q * 2 ^ c = r := by
  by_cases hcarry : r = 2 ^ 53
  · rw [shiftToTargetExponent_eq (p := 53) (by decide) (by omega) (by omega) (by omega)]
    have hhalf : r / 2 ^ (53 - 52) = 2 ^ 52 := by
      rw [hcarry]
      rfl
    exact ⟨2 ^ 52, 1, (shiftRight_exact r _).trans hhalf, rfl, by omega⟩
  · rw [shiftToTargetExponent_eq (p := 52) (by decide) hlo (by omega) (by omega)]
    exact ⟨r, 0, rfl, rfl, by omega⟩

/-- Rounding leaves 53 bits, and the number in units of the last of them. -/
theorem roundWithAccuracy_eq {m p : Nat} {e : Int} (s : Sign) (hp : 52 ≤ p) (hlo : 2 ^ p ≤ m)
    (hhi : m < 2 ^ (p + 1)) (he : -1022 ≤ p + e) :
    ∃ (q c : Nat) (hq : 0 < q),
      roundWithAccuracy .binary64 s m e .exact = .finite s q (e + (p - 52 : Nat) + c) hq ∧
      2 ^ 52 ≤ q ∧ q < 2 ^ 53 ∧ c ≤ 1 ∧ q * 2 ^ c = roundEven m (2 ^ (p - 52)) := by
  obtain ⟨hle, hge⟩ := roundEven_two_pow hp hlo hhi
  obtain ⟨q, c, hmantissa, hexponent, hqlo, hqhi, hc⟩ :=
    shiftToTargetExponent_carry (e := e + (p - 52 : Nat)) hle hge (by omega)
  refine ⟨q, c, by omega, ?_, hqlo, hqhi, hc⟩
  rw [roundWithAccuracy, shiftToTargetExponent_eq hp hlo hhi he]
  simp only [roundedMantissa_shiftRight, hmantissa, hexponent]
  rw [dif_neg (by omega)]

/-! ## Whole numbers in binary form -/

/-- The number is `n` with the sign `s`, with 53 bits and the first of them set. -/
inductive Whole (s : Sign) : Nat → UnpackedFloat → Prop
  | zero : Whole s 0 (.zero s)
  | finite {n m l : Nat} {hm : 0 < m} (hlo : 2 ^ 52 ≤ m) (hhi : m < 2 ^ 53) (hl : l ≤ 64)
      (hn : m * 2 ^ l = n * 2 ^ 52) : Whole s n (.finite s m (l - 52) hm)

/-- Rounding to 53 bits does not depend on the unit in which a number is given. -/
theorem roundEven_scaled {n j : Nat} (hj : 52 ≤ n.log2 + j) :
    roundEven (n * 2 ^ j) (2 ^ (n.log2 + j - 52)) * 2 ^ n.log2 = nearest n * 2 ^ 52 := by
  by_cases hlog : 52 ≤ n.log2
  · have hunit : 2 ^ (n.log2 + j - 52) = 2 ^ (n.log2 - 52) * 2 ^ j := by
      rw [← Nat.pow_add, Nat.sub_add_comm hlog]
    have hpow : 2 ^ n.log2 = 2 ^ (n.log2 - 52) * 2 ^ 52 := by
      rw [← Nat.pow_add, Nat.sub_add_cancel hlog]
    rw [hunit, roundEven_mul_mul _ _ (Nat.two_pow_pos j), nearest, hpow, Nat.mul_assoc]
  · -- all bits are kept
    have hsplit : n * 2 ^ j = n * 2 ^ (52 - n.log2) * 2 ^ (n.log2 + j - 52) := by
      rw [Nat.mul_assoc, ← Nat.pow_add]
      congr 2
      omega
    have hlt : n < 2 ^ 53 := Nat.lt_of_lt_of_le Nat.lt_log2_self
      (Nat.pow_le_pow_right (by decide) (by omega))
    rw [hsplit, roundEven_mul _ (Nat.two_pow_pos _), nearest_of_lt hlt, Nat.mul_assoc,
      ← Nat.pow_add, Nat.sub_add_cancel (by omega)]

/-- Whole numbers are rounded to the nearest, in whichever unit they are given. -/
theorem whole_roundWithAccuracy {n j : Nat} (s : Sign) (hn : 0 < n) (hlt : n < 2 ^ 64)
    (hj : 52 ≤ n.log2 + j) :
    Whole s (nearest n) (roundWithAccuracy .binary64 s (n * 2 ^ j) (-j) .exact) := by
  have hlo : 2 ^ (n.log2 + j) ≤ n * 2 ^ j := by
    rw [Nat.pow_add]
    exact Nat.mul_le_mul_right _ (Nat.log2_self_le (by omega))
  have hhi : n * 2 ^ j < 2 ^ (n.log2 + j + 1) := by
    rw [Nat.add_right_comm, Nat.pow_add]
    exact Nat.mul_lt_mul_of_pos_right Nat.lt_log2_self (Nat.two_pow_pos j)
  obtain ⟨q, c, hq, hround, hqlo, hqhi, hc, hr⟩ :=
    roundWithAccuracy_eq s hj hlo hhi (e := -j) (by omega)
  have hlog : n.log2 < 64 := (Nat.log2_lt (by omega)).2 hlt
  have hexp : (-j + (n.log2 + j - 52 : Nat) + c : Int) = (n.log2 + c : Nat) - 52 := by omega
  rw [hround, hexp]
  refine .finite hqlo hqhi (by omega) ?_
  rw [← roundEven_scaled hj, ← hr, Nat.pow_add, Nat.mul_right_comm, Nat.mul_assoc]

theorem Whole.neg {s : Sign} {n : Nat} {f : UnpackedFloat} (h : Whole s n f) :
    Whole (-s) n f.neg := by
  cases h with
  | zero => exact .zero
  | finite hlo hhi hl hn => exact .finite hlo hhi hl hn

theorem Whole.isFinite {s : Sign} {n : Nat} {f : UnpackedFloat} (h : Whole s n f) :
    f.isFinite = true := by
  cases h <;> rfl

/-! ## The order of whole numbers -/

/-- Of two numbers with 53 bits the one with the greater exponent is greater. -/
theorem lt_of_exponent_lt {m₁ m₂ l₁ l₂ n₁ n₂ : Nat} (hhi₁ : m₁ < 2 ^ 53) (hlo₂ : 2 ^ 52 ≤ m₂)
    (hn₁ : m₁ * 2 ^ l₁ = n₁ * 2 ^ 52) (hn₂ : m₂ * 2 ^ l₂ = n₂ * 2 ^ 52) (hl : l₁ < l₂) :
    n₁ < n₂ := by
  have hlt : n₁ * 2 ^ 52 < n₂ * 2 ^ 52 := by
    calc n₁ * 2 ^ 52 = m₁ * 2 ^ l₁ := hn₁.symm
      _ < 2 ^ 53 * 2 ^ l₁ := Nat.mul_lt_mul_of_pos_right hhi₁ (Nat.two_pow_pos l₁)
      _ = 2 ^ 52 * 2 ^ (l₁ + 1) := by
        rw [Nat.pow_succ 2 l₁]
        omega
      _ ≤ m₂ * 2 ^ l₂ := Nat.mul_le_mul hlo₂ (Nat.pow_le_pow_right (by decide) hl)
      _ = n₂ * 2 ^ 52 := hn₂
  exact Nat.lt_of_mul_lt_mul_right hlt

theorem compare_finite {m₁ m₂ l₁ l₂ n₁ n₂ : Nat} (hlo₁ : 2 ^ 52 ≤ m₁) (hhi₁ : m₁ < 2 ^ 53)
    (hlo₂ : 2 ^ 52 ≤ m₂) (hhi₂ : m₂ < 2 ^ 53) (hn₁ : m₁ * 2 ^ l₁ = n₁ * 2 ^ 52)
    (hn₂ : m₂ * 2 ^ l₂ = n₂ * 2 ^ 52) :
    (Ord.compare ((l₁ : Int) - 52) (l₂ - 52)).then (Ord.compare m₁ m₂) =
      Ord.compare (n₁ : Int) n₂ := by
  rcases lt_trichotomy l₁ l₂ with hl | rfl | hl
  · have hn := lt_of_exponent_lt hhi₁ hlo₂ hn₁ hn₂ hl
    rw [compare_lt_iff_lt.2 (by omega), Ordering.lt_then, compare_lt_iff_lt.2 (by omega)]
  · -- one exponent: the mantissas are the numbers in one unit
    have hu : 0 < 2 ^ l₁ := Nat.two_pow_pos l₁
    have hlt : m₁ < m₂ ↔ n₁ < n₂ := by
      rw [← Nat.mul_lt_mul_right hu, hn₁, hn₂, Nat.mul_lt_mul_right (Nat.two_pow_pos 52)]
    have hgt : m₂ < m₁ ↔ n₂ < n₁ := by
      rw [← Nat.mul_lt_mul_right hu, hn₁, hn₂, Nat.mul_lt_mul_right (Nat.two_pow_pos 52)]
    rw [compare_eq_iff_eq.2 rfl, Ordering.eq_then]
    rcases lt_trichotomy m₁ m₂ with hm | hm | hm
    · rw [compare_lt_iff_lt.2 hm, compare_lt_iff_lt.2 (by omega)]
    · rw [compare_eq_iff_eq.2 hm, compare_eq_iff_eq.2 (by omega)]
    · rw [compare_gt_iff_gt.2 hm, compare_gt_iff_gt.2 (by omega)]
  · have hn := lt_of_exponent_lt hhi₂ hlo₁ hn₂ hn₁ hl
    rw [compare_gt_iff_gt.2 (by omega), Ordering.gt_then, compare_gt_iff_gt.2 (by omega)]

/-- A number that has its first bit set is not zero. -/
theorem pos_of_finite {m l n : Nat} (hlo : 2 ^ 52 ≤ m) (hn : m * 2 ^ l = n * 2 ^ 52) : 0 < n := by
  have hpos : 0 < m * 2 ^ l := Nat.mul_pos (by omega) (Nat.two_pow_pos l)
  omega

theorem compare_neg (i j : Int) : Ord.compare (-i) (-j) = (Ord.compare i j).swap := by
  rcases lt_trichotomy i j with h | h | h
  · rw [compare_lt_iff_lt.2 h, compare_gt_iff_gt.2 (by omega)]
    rfl
  · rw [compare_eq_iff_eq.2 h, compare_eq_iff_eq.2 (by omega)]
    rfl
  · rw [compare_gt_iff_gt.2 h, compare_lt_iff_lt.2 (by omega)]
    rfl

/-- Numbers in binary form compare as the whole numbers do. -/
theorem Whole.compare {s₁ s₂ : Sign} {n₁ n₂ : Nat} {f₁ f₂ : UnpackedFloat} (h₁ : Whole s₁ n₁ f₁)
    (h₂ : Whole s₂ n₂ f₂) : f₁.compare f₂ = some (Ord.compare (s₁.apply n₁) (s₂.apply n₂)) := by
  cases h₁ with
  | zero =>
    cases h₂ with
    | zero => cases s₁ <;> cases s₂ <;> rfl
    | finite hlo hhi hl hn =>
      have hpos := pos_of_finite hlo hn
      cases s₁ <;> cases s₂ <;>
        simp [UnpackedFloat.compare, Sign.apply, hpos, eq_comm (a := Ordering.lt),
          eq_comm (a := Ordering.gt), compare_lt_iff_lt, compare_gt_iff_gt]
  | finite hlo₁ hhi₁ hl₁ hn₁ =>
    have hpos₁ := pos_of_finite hlo₁ hn₁
    cases h₂ with
    | zero =>
      cases s₁ <;> cases s₂ <;>
        simp [UnpackedFloat.compare, Sign.apply, hpos₁, eq_comm (a := Ordering.lt),
          eq_comm (a := Ordering.gt), compare_lt_iff_lt, compare_gt_iff_gt]
    | finite hlo₂ hhi₂ hl₂ hn₂ =>
      have hpos₂ := pos_of_finite hlo₂ hn₂
      have hsame := compare_finite hlo₁ hhi₁ hlo₂ hhi₂ hn₁ hn₂
      cases s₁ <;> cases s₂
      · simp only [UnpackedFloat.compare, Sign.apply, hsame, compare_neg]
      · simp only [UnpackedFloat.compare, Sign.apply]
        rw [compare_lt_iff_lt.2 (by omega)]
      · simp only [UnpackedFloat.compare, Sign.apply]
        rw [compare_gt_iff_gt.2 (by omega)]
      · simp only [UnpackedFloat.compare, Sign.apply, hsame]

/-- Whole numbers are read back from their bits. -/
theorem Whole.unpack_pack {s : Sign} {n : Nat} {f : UnpackedFloat} (h : Whole s n f) :
    (Float.Model.pack f).unpack = f := by
  cases h with
  | zero => cases s <;> rfl
  | @finite n m l hm hlo hhi hl hn =>
    exact Binary.unpack_pack s ⟨hm, hhi, by omega, Or.inl hlo⟩ (by omega)

/-! ## From whole to binary numbers -/

/-- The binary number `x` is the whole number `i`. -/
def Stands (i : Int) (x : Float) : Prop :=
  ∃ (s : Sign) (n : Nat), Whole s n x.toModel.unpack ∧ s.apply n = i

theorem stands_pack {s : Sign} {n : Nat} {f : UnpackedFloat} (h : Whole s n f) :
    Stands (s.apply n) ⟨Float.Model.pack f⟩ :=
  ⟨s, n, h.unpack_pack.symm ▸ h, rfl⟩

/-- Rounding first moves a small number to the left, until it has 53 bits. -/
theorem whole_round {n : Nat} (s : Sign) (hn : 0 < n) (hlt : n < 2 ^ 64) :
    Whole s (nearest n) (UnpackedFloat.round .binary64 s n 0) := by
  have hshift : (0 - Format.binary64.targetExponent (totalExponent n 0)).toNat = 52 - n.log2 := by
    simp only [totalExponent, Format.targetExponent, Format.minExponent, Format.mantissaBits]
    omega
  simp only [UnpackedFloat.round, decreaseExponent, hshift]
  rw [Nat.shiftLeft_eq, Int.zero_sub]
  exact whole_roundWithAccuracy s hn hlt (by omega)

/-- **The binary number of a whole number without a sign is the nearest.** -/
theorem stands_toFloat (n : UInt64) : Stands (nearest n.toNat) n.toFloat := by
  refine stands_pack (s := .positive) ?_
  change Whole .positive _ (UnpackedFloat.normalize .binary64 (n.toNat : Int) 0 .positive)
  rw [UnpackedFloat.normalize]
  by_cases hn : n.toNat = 0
  · rw [compare_eq_iff_eq.2 (by omega), hn]
    exact .zero
  · rw [compare_gt_iff_gt.2 (by omega)]
    exact whole_round .positive (by omega) n.toNat_lt

/-- A number times one is the number. -/
theorem Whole.mul_one {s : Sign} {n : Nat} {f : UnpackedFloat} (h : Whole s n f) :
    Whole s n (UnpackedFloat.mul .binary64 f
      (.finite .positive (2 ^ 52) (-52) (Nat.two_pow_pos 52))) := by
  have hs : s * .positive = s := by cases s <;> rfl
  cases h with
  | zero =>
    change Whole s 0 (.zero (s * .positive))
    rw [hs]
    exact .zero
  | @finite n m l _ hlo hhi hl hn =>
    obtain ⟨q, c, hq, hround, hqlo, hqhi, hc, hr⟩ :=
      roundWithAccuracy_eq (m := m * 2 ^ 52) (p := 104) (e := (l : Int) - 52 + -52) s (by decide)
        (by omega) (by omega) (by omega)
    rw [roundEven_mul m (by decide)] at hr
    -- nothing is rounded, so there is no carry
    obtain rfl : c = 0 := by
      obtain h | h : c = 0 ∨ c = 1 := by omega
      · exact h
      · rw [h] at hr
        omega
    obtain rfl : q = m := by simpa using hr
    have hexp : (l : Int) - 52 + -52 + (104 - 52 : Nat) + (0 : Nat) = l - 52 := by omega
    rw [UnpackedFloat.mul, hs, hround, hexp]
    exact .finite hlo hhi hl hn

/-- The binary number of a whole number, by way of the decimal notation. -/
theorem stands_ofNat {n : Nat} (hn : n < 2 ^ 64) : Stands (nearest n) (Float.ofNat n) := by
  change Stands (nearest n) (Float.ofScientific n false 0)
  rw [Float.ofScientific]
  split
  · -- a small number is multiplied by one
    obtain ⟨s, k, hw, hk⟩ := stands_toFloat n.toUInt64
    have hone : (Float.Model.ofBits 0x3FF0000000000000).unpack =
        .finite .positive (2 ^ 52) (-52) (Nat.two_pow_pos 52) := rfl
    have hval : n.toUInt64.toNat = n := Nat.mod_eq_of_lt hn
    have hpack := stands_pack hw.mul_one
    rw [← hone, hk, hval] at hpack
    exact hpack
  · refine stands_pack (s := .positive) ?_
    rw [UnpackedFloat.ofScientific]
    split
    · next h =>
      rw [h]
      exact .zero
    · next h =>
      have hround := whole_roundWithAccuracy .positive (j := 53) (by omega) hn (by omega)
      have hsmall : ¬ (0 : Int) < -(2048 + n.log2) := by omega
      rw [if_neg (by decide), if_neg (by exact hsmall), if_pos (by decide)]
      rw [← Nat.shiftLeft_eq, ← Nat.mul_one (n <<< 53)] at hround
      exact hround

theorem Stands.neg {i : Int} {x : Float} (h : Stands i x) : Stands (-i) x.neg := by
  obtain ⟨s, n, hw, rfl⟩ := h
  have hi : (-s).apply n = -s.apply n := by cases s <;> simp [Sign.apply]
  rw [← hi]
  exact stands_pack hw.neg

/-- **The binary number of a whole number with a sign is the nearest.** -/
theorem stands_widen (n : Int64) : Stands (nearestInt n.toInt) (Value.widen n) := by
  have hlo := n.le_toInt
  have hhi := n.toInt_lt
  rw [Value.widen]
  generalize n.toInt = i at hlo hhi
  cases i with
  | ofNat m => exact stands_ofNat (by simp only [Int.ofNat_eq_natCast] at hhi; omega)
  | negSucc m => exact (stands_ofNat (n := m + 1) (by omega)).neg

/-! ## Comparisons of whole numbers as binary numbers -/

section Stands

variable {i j : Int} {x y : Float}

theorem Stands.isFinite (hx : Stands i x) : x.isFinite = true := by
  obtain ⟨s, n, hw, -⟩ := hx
  exact hw.isFinite

theorem Stands.compare (hx : Stands i x) (hy : Stands j y) :
    x.toModel.unpack.compare y.toModel.unpack = some (Ord.compare i j) := by
  obtain ⟨s, m, hm, rfl⟩ := hx
  obtain ⟨t, n, hn, rfl⟩ := hy
  exact hm.compare hn

theorem Stands.beq (hx : Stands i x) (hy : Stands j y) : (x == y) = decide (i = j) := by
  change (x.toModel.unpack.compare y.toModel.unpack == some .eq) = _
  rw [hx.compare hy, Bool.eq_iff_iff]
  simp

theorem Stands.lt (hx : Stands i x) (hy : Stands j y) : x < y ↔ i < j := by
  change decide ((x.toModel.unpack.compare y.toModel.unpack == some .lt) = true) = true ↔ _
  rw [hx.compare hy]
  simp [compare_lt_iff_lt]

theorem Stands.compareFloat? (hx : Stands i x) (hy : Stands j y) :
    Value.compareFloat? x y = some (Ord.compare i j) := by
  rw [Value.compareFloat?]
  simp only [hx.lt hy, hy.lt hx, hx.beq hy]
  rcases lt_trichotomy i j with h | h | h
  · rw [if_pos h, compare_lt_iff_lt.2 h]
  · rw [if_neg (by omega), if_pos (by simpa using h), compare_eq_iff_eq.2 h]
  · rw [if_neg (by omega), if_neg (by simp; omega), if_pos h, compare_gt_iff_gt.2 h]

end Stands

/-- **Whole numbers without a sign are finite.** -/
theorem isFinite_toFloat (n : UInt64) : n.toFloat.isFinite = true := (stands_toFloat n).isFinite

/-- **Whole numbers with a sign are finite.** -/
theorem isFinite_widen (n : Int64) : (Value.widen n).isFinite = true := (stands_widen n).isFinite

end Conform.Binary
