import Conform.Decimal.Reading
import Conform.Proofs.Decimal.Rounding

/-!
# The binary numbers of decimals

A decimal numeral is read as the nearest binary number. Short numerals take a way of their own, over
whole numbers and powers of ten that are both exact; all others are a product or a quotient of whole
numbers.

* `Rounds v x`: `x` is the binary number nearest to `v`; `Rounds.unique`: there is only one;
* `rounds_ofScientific`: the main statement;
* `Rounds.cases`: the number is finite as long as `v` is below `limit`;
* `Numeral.rounds_toFloat`, `Numeral.cases_toFloat`: the same for the parts of a numeral.
-/

namespace Conform.Binary

open Float.Model
open Float.Model.UnpackedFloat

/-! ## Exact numbers -/

/-- The binary number is `v` in all its bits. -/
def Exact (v : ℚ) (x : Float) : Prop :=
  ∃ (p : ℕ) (f : ℤ) (hp : 0 < p),
    x.toModel.unpack = .finite .positive p f hp ∧ 2 ^ 52 ≤ p ∧ p * 2 ^ f = v

/-- The binary number is the nearest to the positive number `v`; beyond the range it is infinite. -/
def Rounds (v : ℚ) (x : Float) : Prop :=
  ∃ f, Rounded .positive v f ∧ x.toModel = Float.Model.pack f

theorem mul_zpow_of_scaled {p l n : ℕ} (h : p * 2 ^ l = n * 2 ^ 52) :
    (p : ℚ) * 2 ^ ((l : ℤ) - 52) = n := by
  have h : (p : ℚ) * 2 ^ l = n * 2 ^ 52 := by exact_mod_cast h
  rw [zpow_sub₀ (by norm_num), zpow_natCast, mul_div_assoc', h]
  norm_num

/-- A positive number with its first bit set. -/
theorem exact_ofFloat {x : Float} (hx : x.isFinite = true) (hneg : (ofFloat x).negative = false)
    (hlo : 2 ^ 52 ≤ (ofFloat x).significand) :
    Exact ((ofFloat x).significand * 2 ^ (ofFloat x).exponent) x := by
  rcases toModel_of_isFinite hx with ⟨hzero, -⟩ | ⟨hcanonical, hle, hfinite⟩
  · omega
  · have hsign : (ofFloat x).sign = .positive := by rw [sign, hneg]; rfl
    refine ⟨_, _, hcanonical.pos, ?_, hlo, rfl⟩
    rw [hfinite, unpack_pack _ hcanonical hle, hsign]

/-- The table of powers of ten is exact. -/
theorem exact_power {k : ℕ} (hk : k < Float.exactlyRepresentablePowersOfTen.size) :
    Exact (10 ^ k) Float.exactlyRepresentablePowersOfTen[k] := by
  have hfields : ∀ k : Fin 23, let x := Float.exactlyRepresentablePowersOfTen[k]
      x.isFinite = true ∧ (ofFloat x).negative = false ∧ 2 ^ 52 ≤ (ofFloat x).significand ∧
      -52 ≤ (ofFloat x).exponent ∧
      (ofFloat x).significand * 2 ^ ((ofFloat x).exponent + 52).toNat = 10 ^ k.1 * 2 ^ 52 := by
    decide +kernel
  obtain ⟨hfin, hneg, hlo, hexp, hval⟩ := hfields ⟨k, hk⟩
  have hexact := exact_ofFloat hfin hneg hlo
  have hvalue := mul_zpow_of_scaled hval
  rw [Int.toNat_of_nonneg (by omega), add_sub_cancel_right] at hvalue
  rw [hvalue] at hexact
  exact_mod_cast hexact

/-- So are whole numbers of at most 53 bits. -/
theorem exact_toFloat {m : ℕ} (hm : 0 < m) (hlt : m < 2 ^ 53) : Exact m m.toUInt64.toFloat := by
  obtain ⟨s, n, hwhole, happly⟩ := stands_toFloat m.toUInt64
  have hval : m.toUInt64.toNat = m := Nat.mod_eq_of_lt (by omega)
  rw [hval, nearest_of_lt hlt] at happly
  generalize hf : m.toUInt64.toFloat.toModel.unpack = f at hwhole
  cases hwhole with
  | zero => cases s <;> simp [Sign.apply] at happly <;> omega
  | finite hlo hhi hl hn =>
    cases s with
    | negative =>
      simp [Sign.apply] at happly
      omega
    | positive =>
      obtain rfl := Int.ofNat_inj.1 happly
      exact ⟨_, _, _, hf, hlo, mul_zpow_of_scaled hn⟩

section exact

variable {v w : ℚ} {x y : Float}

theorem Exact.mul (hx : Exact v x) (hy : Exact w y) : Rounds (v * w) (x * y) := by
  obtain ⟨p, e, hp, hx, hlo, rfl⟩ := hx
  obtain ⟨q, f, hq, hy, -, rfl⟩ := hy
  refine ⟨_, rounded_mul .positive .positive hp hq ?_, ?_⟩
  · calc 2 ^ 52 ≤ p := hlo
      _ ≤ p * q := Nat.le_mul_of_pos_right p hq
  · rw [← hx, ← hy]
    rfl

theorem Exact.div (hx : Exact v x) (hy : Exact w y) : Rounds (v / w) (x / y) := by
  obtain ⟨p, e, hp, hx, -, rfl⟩ := hx
  obtain ⟨q, f, hq, hy, -, rfl⟩ := hy
  refine ⟨_, rounded_div .positive .positive hp hq, ?_⟩
  rw [← hx, ← hy]
  rfl

end exact

/-! ## Rounded numbers -/

theorem Rounds.unique {v : ℚ} {x y : Float} (hx : Rounds v x) (hy : Rounds v y) : x = y := by
  obtain ⟨f, hf, hx⟩ := hx
  obtain ⟨g, hg, hy⟩ := hy
  obtain rfl := hf.unique hg
  exact congrArg Float.ofModel (hx.trans hy.symm)

/-- The infinite number that is positive. -/
def infinity : Float := ⟨Float.Model.pack (.infinity .positive)⟩

/-- **The range.** Below the limit the number is finite, and it may be zero; from there on it is
infinite. -/
theorem Rounds.cases {v : ℚ} {x : Float} (hv : 0 < v) (h : Rounds v x) :
    (v < limit ∧ x.isFinite = true ∧ (x = 0 ∨ 0 < x)) ∨ (limit ≤ v ∧ x = infinity) := by
  obtain ⟨f, hf, hx⟩ := h
  obtain rfl : x = ⟨Float.Model.pack f⟩ := congrArg Float.ofModel hx
  rcases hf.cases hv with ⟨rfl, hlt⟩ | ⟨m, q, h, rfl, hq⟩
  · exact Or.inl ⟨hlt, rfl, Or.inl rfl⟩
  · by_cases hlt : v < limit
    · refine Or.inl ⟨hlt, (isFinite_pack .positive h).2 (hq.2 hlt), Or.inr (pos_iff.2 ?_)⟩
      rw [unpack_pack .positive h (hq.2 hlt)]
      rfl
    · refine Or.inr ⟨not_lt.1 hlt, ?_⟩
      simp only [infinity, Float.Model.pack, pack_of_lt .positive h (not_le.1 (mt hq.1 hlt))]
      rfl

/-- Beyond the range. -/
theorem rounds_infinity {v : ℚ} (hv : limit ≤ v) : Rounds v infinity := by
  have hpos : 0 < v := lt_of_lt_of_le limit_pos hv
  obtain ⟨f, hf⟩ := exists_rounded .positive hpos
  have hround : Rounds v ⟨Float.Model.pack f⟩ := ⟨f, hf, rfl⟩
  rcases hround.cases hpos with ⟨hlt, -⟩ | ⟨-, heq⟩
  · exact absurd hlt (not_lt.2 hv)
  · rwa [heq] at hround

/-- Below the least place. -/
theorem rounds_zero {v : ℚ} (hpos : 0 < v) (hv : v < 2 ^ (-1075 : ℤ)) :
    Rounds v ⟨Float.Model.pack (.zero .positive)⟩ := by
  have hlog : Int.log 2 v < -1075 :=
    (zpow_lt_zpow_iff_right₀ (by norm_num : (1 : ℚ) < 2)).1 (lt_of_le_of_lt (zpow_log_le hpos) hv)
  have hplace : place v = -1074 := by
    rw [place]
    omega
  refine ⟨_, ⟨0, Or.inl ?_, rfl⟩, rfl⟩
  rw [hplace, Nat.cast_zero, sub_zero, abs_of_pos (by positivity), div_lt_iff₀ (by positivity)]
  refine lt_of_lt_of_eq hv ?_
  rw [show (-1075 : ℤ) = -1 + -1074 from rfl, zpow_add₀ (by norm_num)]
  norm_num

/-! ## Decimals -/

section decimal

variable {m : ℕ} (hm : 0 < m)
include hm

/-- A power of ten that is too large to be computed. -/
theorem rounds_large {e : ℤ} (he : 2048 < e) : Rounds (m * 10 ^ e) infinity := by
  have hone : (1 : ℚ) ≤ m := by exact_mod_cast hm
  refine rounds_infinity ?_
  calc limit ≤ 2 ^ 1024 := sub_le_self _ (by positivity)
    _ = 2 ^ (1024 : ℤ) := rfl
    _ ≤ 2 ^ e := zpow_le_zpow_right₀ (by norm_num) (by omega)
    _ ≤ 10 ^ e := zpow_le_zpow_left₀ (by omega) (by norm_num) (by norm_num)
    _ ≤ m * 10 ^ e := le_mul_of_one_le_left (by positivity) hone

/-- A power of ten that is too small. -/
theorem rounds_small {e : ℤ} (he : e < -(2048 + m.log2)) :
    Rounds (m * 10 ^ e) ⟨Float.Model.pack (.zero .positive)⟩ := by
  have hlt : (m : ℚ) < 2 ^ ((m.log2 : ℤ) + 1) := by exact_mod_cast Nat.lt_log2_self
  have hpow : (10 : ℚ) ^ e ≤ 2 ^ e := by
    rw [← neg_neg e, zpow_neg, zpow_neg 2]
    exact inv_anti₀ (by positivity) (zpow_le_zpow_left₀ (by omega) (by norm_num) (by norm_num))
  refine rounds_zero (by positivity) ?_
  calc (m * 10 ^ e : ℚ) < 2 ^ ((m.log2 : ℤ) + 1) * 10 ^ e := by gcongr
    _ ≤ 2 ^ ((m.log2 : ℤ) + 1) * 2 ^ e := by gcongr
    _ = 2 ^ ((m.log2 : ℤ) + 1 + e) := (zpow_add₀ (by norm_num) _ e).symm
    _ ≤ 2 ^ (-1075 : ℤ) := zpow_le_zpow_right₀ (by norm_num) (by omega)

/-- The product is taken with 53 bits more, so that none is missing. -/
theorem rounds_product (k : ℕ) (hm' : 0 < m <<< 53) (hk : 0 < 10 ^ k) :
    Rounds (m * 10 ^ (k : ℤ)) ⟨Float.Model.pack (UnpackedFloat.mul .binary64
      (.finite .positive (m <<< 53) (-53) hm') (.finite .positive (10 ^ k) 0 hk))⟩ := by
  have hprod : 2 ^ 52 ≤ m <<< 53 * 10 ^ k := by
    rw [Nat.shiftLeft_eq]
    calc 2 ^ 52 ≤ 1 * 2 ^ 53 * 1 := by decide
      _ ≤ m * 2 ^ 53 * 10 ^ k := by
        gcongr
        · omega
        · exact hk
  have hval : ((m <<< 53 : ℕ) * 2 ^ (-53 : ℤ) * ((10 ^ k : ℕ) * 2 ^ (0 : ℤ)) : ℚ) =
      m * 10 ^ (k : ℤ) := by
    rw [Nat.shiftLeft_eq]
    push_cast
    field_simp
    norm_num
  rw [← hval]
  exact ⟨_, rounded_mul .positive .positive hm' hk hprod, rfl⟩

theorem rounds_quotient (k : ℕ) (hk : 0 < 10 ^ k) :
    Rounds (m * 10 ^ (-k : ℤ)) ⟨Float.Model.pack (UnpackedFloat.div .binary64
      (.finite .positive m 0 hm) (.finite .positive (10 ^ k) 0 hk))⟩ := by
  have hval : (m * 2 ^ (0 : ℤ) / ((10 ^ k : ℕ) * 2 ^ (0 : ℤ)) : ℚ) = m * 10 ^ (-k : ℤ) := by
    rw [zpow_neg, zpow_natCast]
    push_cast
    field_simp
  rw [← hval]
  exact ⟨_, rounded_div .positive .positive hm hk, rfl⟩

theorem rounds_model (e : ℤ) :
    Rounds (m * 10 ^ e) ⟨Float.Model.pack (UnpackedFloat.ofScientific .binary64 m e)⟩ := by
  rw [UnpackedFloat.ofScientific, dif_neg hm.ne']
  split
  · rename_i he
    exact rounds_large hm he
  split
  · rename_i he
    exact rounds_small hm he
  split
  · rename_i he
    lift e to ℕ using he
    exact rounds_product hm e _ _
  · obtain ⟨k, rfl⟩ : ∃ k : ℕ, e = -k := ⟨(-e).toNat, by omega⟩
    have hround := rounds_quotient hm k (Nat.pow_pos (by decide))
    simpa using hround

/-- **Decimals are rounded to the nearest binary number.** -/
theorem rounds_ofScientific (neg : Bool) (k : ℕ) :
    Rounds (m * 10 ^ (if neg then -(k : ℤ) else k)) (Float.ofScientific m neg k) := by
  by_cases h : m < 2 ^ 53 ∧ k ≤ 22
  · -- the number and the power are exact
    have hpower := exact_power (k := k) (by change k < 23; omega)
    have hnumber := exact_toFloat hm h.1
    rw [Float.ofScientific, dif_pos h]
    cases neg with
    | false => exact hnumber.mul hpower
    | true =>
      rw [if_pos rfl, zpow_neg, zpow_natCast, ← div_eq_mul_inv]
      exact hnumber.div hpower
  · rw [Float.ofScientific, dif_neg h]
    cases neg with
    | false => exact rounds_model hm k
    | true =>
      have hneg : Int.negOfNat k = -(k : ℤ) := Int.negOfNat_eq
      rw [if_pos rfl, ← hneg]
      exact rounds_model hm _

end decimal

/-! ## Numerals -/

/-- Zero is read as zero, whatever its power of ten. -/
theorem ofScientific_zero (neg : Bool) (k : ℕ) : Float.ofScientific 0 neg k = 0 := by
  by_cases h : 0 < 2 ^ 53 ∧ k ≤ 22
  · obtain ⟨p, f, hp, hpower, -, -⟩ := exact_power (k := k) (by change k < 23; omega)
    have hzero : (Nat.toUInt64 0).toFloat.toModel.unpack = .zero .positive := rfl
    rw [Float.ofScientific, dif_pos h]
    cases neg with
    | false =>
      change Float.ofModel (Float.Model.pack (UnpackedFloat.mul .binary64 _ _)) = _
      rw [hzero, hpower]
      rfl
    | true =>
      change Float.ofModel (Float.Model.pack (UnpackedFloat.div .binary64 _ _)) = _
      rw [hzero, hpower]
      rfl
  · rw [Float.ofScientific, dif_neg h]
    rfl

end Conform.Binary

namespace Conform.Numeral

open Binary

/-- The number that is written, but for the sign. -/
def value (n : Numeral) : ℚ :=
  Text.natOfDigits (n.whole ++ n.fraction) * 10 ^ (n.exponent - n.fraction.length)

theorem toFloat_eq {n : Numeral} (hneg : n.negative = false) : n.toFloat =
    Float.ofScientific (Text.natOfDigits (n.whole ++ n.fraction))
      (decide (n.exponent - n.fraction.length < 0)) (n.exponent - n.fraction.length).natAbs := by
  simp only [toFloat, hneg]
  rfl

/-- **A numeral is read as the nearest binary number.** -/
theorem rounds_toFloat {n : Numeral} (hneg : n.negative = false) (hpos : 0 < n.value) :
    Rounds n.value n.toFloat := by
  have hdigits : 0 < Text.natOfDigits (n.whole ++ n.fraction) := by
    by_contra h
    simp [value, Nat.eq_zero_of_not_pos h] at hpos
  rw [toFloat_eq hneg, value]
  generalize n.exponent - n.fraction.length = e
  have hexp : (if decide (e < 0) then -(e.natAbs : ℤ) else e.natAbs) = e := by
    simp only [decide_eq_true_eq]
    split <;> omega
  have hround := rounds_ofScientific hdigits (decide (e < 0)) e.natAbs
  rwa [hexp] at hround

theorem toFloat_of_value_eq_zero {n : Numeral} (hneg : n.negative = false) (hzero : n.value = 0) :
    n.toFloat = 0 := by
  have hdigits : Text.natOfDigits (n.whole ++ n.fraction) = 0 := by
    simpa [value, zpow_ne_zero] using hzero
  rw [toFloat_eq hneg, hdigits, ofScientific_zero]

theorem value_nonneg (n : Numeral) : 0 ≤ n.value := by
  rw [value]
  positivity

/-- **The range of numerals.** -/
theorem cases_toFloat {n : Numeral} (hneg : n.negative = false) :
    (n.value < limit ∧ n.toFloat.isFinite = true ∧ (n.toFloat = 0 ∨ 0 < n.toFloat)) ∨
      (limit ≤ n.value ∧ n.toFloat = infinity) := by
  rcases (value_nonneg n).eq_or_lt with hzero | hpos
  · rw [toFloat_of_value_eq_zero hneg hzero.symm, ← hzero]
    exact Or.inl ⟨limit_pos, rfl, Or.inl rfl⟩
  · exact (rounds_toFloat hneg hpos).cases hpos

end Conform.Numeral
