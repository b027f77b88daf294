import Conform.Proofs.Decimal.Nearest

/-!
# Rounding to a binary number

Products and quotients of binary numbers are computed in whole numbers: a mantissa, and what is known of
the bits below it. The bits are shifted out until 53 are left, or until the least place is reached, and
the number is rounded there. Said in rational numbers, it is rounded to the nearest multiple of the unit
at its last place.

* `Nearest`: the nearest whole number, which is only one;
* `place v`: the last place of `v`; `Rounded`: the number that `v` is rounded to;
* `rounded_roundWithAccuracy`, `rounded_mul`, `rounded_div`: what is computed is the rounded number;
* `Rounded.cases`: it is canonical, and its exponent is in range as long as `v` is below `limit`.
-/

namespace Conform.Binary

open Float.Model
open Float.Model.UnpackedFloat

/-! ## The nearest whole number -/

/-- `r` is the whole number nearest to `w`; a half goes to the even neighbour. -/
def Nearest (w : ℚ) (r : ℕ) : Prop := |w - r| < 1 / 2 ∨ |w - r| = 1 / 2 ∧ r % 2 = 0

theorem Nearest.le {w : ℚ} {r : ℕ} (h : Nearest w r) : |w - r| ≤ 1 / 2 :=
  h.elim le_of_lt fun h => h.1.le

theorem Nearest.unique {w : ℚ} {r s : ℕ} (hr : Nearest w r) (hs : Nearest w s) : r = s := by
  have hle := abs_sub_le (r : ℚ) w s
  rw [abs_sub_comm (r : ℚ) w] at hle
  by_contra hne
  -- neighbours at most, and then both are a half away
  have hone : (1 : ℚ) ≤ |(r : ℚ) - s| := by
    have : (1 : ℤ) ≤ |(r : ℤ) - s| := Int.one_le_abs (by omega)
    exact_mod_cast this
  have hr' := hr.le
  have hs' := hs.le
  obtain ⟨hrw, hr2⟩ := hr.resolve_left (by intro h; linarith)
  obtain ⟨hsw, hs2⟩ := hs.resolve_left (by intro h; linarith)
  have habs : |(r : ℚ) - s| = 1 := by linarith
  have : |(r : ℤ) - s| = 1 := by exact_mod_cast habs
  rcases abs_choice ((r : ℤ) - s) with h | h <;> omega

theorem nearest_roundEven (n : ℕ) {u : ℕ} (hu : 0 < u) : Nearest (n / u) (roundEven n u) := by
  have hu' : (0 : ℚ) < u := by exact_mod_cast hu
  have hn : (n : ℚ) = u * (n / u : ℕ) + (n % u : ℕ) := by exact_mod_cast (Nat.div_add_mod n u).symm
  have hlt : ((n % u : ℕ) : ℚ) < u := by exact_mod_cast Nat.mod_lt n hu
  have hdown : (n : ℚ) / u - (n / u : ℕ) = (n % u : ℕ) / u := by
    rw [hn]
    field_simp
    ring
  rw [roundEven, Nearest]
  split
  · rename_i h
    rw [hdown, abs_of_nonneg (by positivity), div_lt_iff₀ hu', div_eq_iff hu'.ne']
    rcases h with h | ⟨h, heven⟩
    · left
      have : (2 : ℚ) * (n % u : ℕ) < u := by exact_mod_cast h
      linarith
    · right
      have : (2 : ℚ) * (n % u : ℕ) = u := by exact_mod_cast h
      exact ⟨by linarith, heven⟩
  · rename_i h
    have hup : (n : ℚ) / u - (n / u + 1 : ℕ) = -((u - (n % u : ℕ)) / u) := by
      push_cast
      rw [← sub_sub, hdown]
      field_simp
      ring
    rw [hup, abs_neg, abs_of_nonneg (div_nonneg (by linarith) hu'.le), div_lt_iff₀ hu',
      div_eq_iff hu'.ne']
    obtain h | ⟨h, hodd⟩ : u < 2 * (n % u) ∨ 2 * (n % u) = u ∧ n / u % 2 = 1 := by omega
    · left
      have : (u : ℚ) < 2 * (n % u : ℕ) := by exact_mod_cast h
      linarith
    · right
      have : (2 : ℚ) * (n % u : ℕ) = u := by exact_mod_cast h
      exact ⟨by linarith, by omega⟩

theorem exists_nearest {w : ℚ} (hw : 0 ≤ w) : ∃ r, Nearest w r := by
  have h := nearest_roundEven w.num.toNat w.den_pos
  have hnum : ((w.num.toNat : ℕ) : ℚ) = w.num := by
    exact_mod_cast congrArg (Int.cast : ℤ → ℚ) (Int.toNat_of_nonneg (Rat.num_nonneg.2 hw))
  rw [hnum, Rat.num_div_den] at h
  exact ⟨_, h⟩

section nearest

variable {w : ℚ} {r k : ℕ}

theorem Nearest.le_of_lt (h : Nearest w r) (hw : w < k) : r ≤ k := by
  have := (abs_le.1 h.le).1
  by_contra hlt
  have : (k + 1 : ℚ) ≤ r := by exact_mod_cast Nat.lt_of_not_le hlt
  linarith

theorem Nearest.le_of_le (h : Nearest w r) (hw : k ≤ w) : k ≤ r := by
  have := (abs_le.1 h.le).2
  by_contra hlt
  have : (r + 1 : ℚ) ≤ k := by exact_mod_cast Nat.lt_of_not_le hlt
  linarith

/-- An even number is reached from the half below it on. -/
theorem Nearest.lt_iff (h : Nearest w r) (hk : k % 2 = 0) : r < k ↔ w < k - 1 / 2 := by
  obtain ⟨hlo, hhi⟩ := abs_le.1 h.le
  constructor
  · intro hlt
    have hle : (r + 1 : ℚ) ≤ k := by exact_mod_cast hlt
    by_contra hw
    -- the half below, but then `r` is the odd one of the two neighbours
    have heq : (r + 1 : ℚ) = k := by linarith
    have heq : r + 1 = k := by exact_mod_cast heq
    have habs : |w - r| = 1 / 2 := by
      rw [abs_of_nonneg] <;> linarith
    rcases h with h | ⟨-, heven⟩
    · linarith
    · omega
  · intro hw
    by_contra hle
    have : (k : ℚ) ≤ r := by exact_mod_cast Nat.le_of_not_lt hle
    linarith

end nearest

/-! ## Rounding of ratios -/

/-- The exponent of the last place of the positive number `v`: 53 bits are kept, but none below the
least place. -/
def place (v : ℚ) : ℤ := max (Int.log 2 v - 52) (-1074)

/-- The number `r · 2 ^ u`, of at most 53 bits; the carry of rounding up is moved into the exponent. -/
def settle (s : Sign) (r : ℕ) (u : ℤ) : UnpackedFloat :=
  if h : r = 0 then .zero s
  else if r = 2 ^ 53 then .finite s (2 ^ 52) (u + 1) (Nat.two_pow_pos 52)
  else .finite s r u (Nat.pos_of_ne_zero h)

/-- The positive number `v` is rounded to `f`, whatever its exponent. -/
def Rounded (s : Sign) (v : ℚ) (f : UnpackedFloat) : Prop :=
  ∃ r, Nearest (v / 2 ^ place v) r ∧ f = settle s r (place v)

theorem zpow_log_le {v : ℚ} (hv : 0 < v) : 2 ^ Int.log 2 v ≤ v := by
  exact_mod_cast Int.zpow_log_le_self (b := 2) (by decide) hv

theorem lt_zpow_log (v : ℚ) : v < 2 ^ (Int.log 2 v + 1) := by
  exact_mod_cast Int.lt_zpow_succ_log_self (b := 2) (by decide) v

theorem log_eq {v : ℚ} {p : ℤ} (hlo : 2 ^ p ≤ v) (hhi : v < 2 ^ (p + 1)) : Int.log 2 v = p := by
  have hv : 0 < v := lt_of_lt_of_le (by positivity) hlo
  have hle : p < Int.log 2 v + 1 :=
    (zpow_lt_zpow_iff_right₀ (by norm_num : (1 : ℚ) < 2)).1 (lt_of_le_of_lt hlo (lt_zpow_log v))
  have hlt : Int.log 2 v < p + 1 :=
    (zpow_lt_zpow_iff_right₀ (by norm_num : (1 : ℚ) < 2)).1 (lt_of_le_of_lt (zpow_log_le hv) hhi)
  omega

theorem log_mul_zpow {v : ℚ} (hv : 0 < v) (e : ℤ) : Int.log 2 (v * 2 ^ e) = Int.log 2 v + e := by
  have he : (0 : ℚ) < 2 ^ e := by positivity
  refine log_eq ?_ ?_
  · rw [zpow_add₀ (by norm_num)]
    exact mul_le_mul_of_nonneg_right (zpow_log_le hv) he.le
  · rw [add_right_comm, zpow_add₀ (by norm_num)]
    exact mul_lt_mul_of_pos_right (lt_zpow_log v) he

theorem lt_zpow_place (v : ℚ) : v / 2 ^ place v < 2 ^ 53 := by
  rw [div_lt_iff₀ (by positivity)]
  have hle : Int.log 2 v + 1 ≤ 53 + place v := by
    rw [place]
    omega
  calc v < 2 ^ (Int.log 2 v + 1) := lt_zpow_log v
    _ ≤ 2 ^ (53 + place v) := zpow_le_zpow_right₀ (by norm_num) hle
    _ = 2 ^ 53 * 2 ^ place v := by
      rw [zpow_add₀ (by norm_num)]
      norm_num

theorem le_zpow_place {v : ℚ} (hv : 0 < v) (h : -1074 < place v) : 2 ^ 52 ≤ v / 2 ^ place v := by
  rw [le_div_iff₀ (by positivity)]
  have hle : 52 + place v = Int.log 2 v := by
    rw [place] at h ⊢
    omega
  calc (2 : ℚ) ^ 52 * 2 ^ place v = 2 ^ (52 + place v) := by
        rw [zpow_add₀ (by norm_num)]
        norm_num
    _ = 2 ^ Int.log 2 v := by rw [hle]
    _ ≤ v := zpow_log_le hv

section ratio

variable {n u : ℕ} {e : ℤ}

/-- The exponent that a ratio is shifted to. -/
theorem targetExponent_eq (hn : 0 < n) (hu : 0 < u) (he : e ≤ place (n / u * 2 ^ e)) :
    Format.binary64.targetExponent (totalExponent (n / u) e) = place (n / u * 2 ^ e) := by
  have hratio : (0 : ℚ) < n / u := by positivity
  have htarget : Format.binary64.targetExponent (totalExponent (n / u) e) =
      max ((n / u).log2 + e - 52) (-1074) := by
    simp only [Format.targetExponent, totalExponent, Format.minExponent, Format.mantissaBits]
    omega
  rw [htarget]
  rw [place, log_mul_zpow hratio] at he ⊢
  by_cases hq : n / u = 0
  · -- all bits are below the least place
    have hlt : (n : ℚ) / u < 2 ^ (0 : ℤ) := by
      rw [zpow_zero, div_lt_one (by positivity)]
      exact_mod_cast (Nat.div_eq_zero_iff.1 hq).resolve_left (by omega)
    have hlog : Int.log 2 ((n : ℚ) / u) < 0 :=
      (zpow_lt_zpow_iff_right₀ (by norm_num : (1 : ℚ) < 2)).1 (lt_of_le_of_lt (zpow_log_le hratio) hlt)
    rw [hq]
    simp only [Nat.log2_zero]
    omega
  · have hone : (1 : ℚ) ≤ n / u := by
      rw [le_div_iff₀ (by positivity), one_mul]
      exact_mod_cast (Nat.div_pos_iff.1 (Nat.pos_of_ne_zero hq)).2
    rw [Int.log_of_one_le_right 2 hone, Nat.floor_div_eq_div, Nat.log2_eq_log_two]

/-- A number of at most 53 bits stays as it is, but for a carry. -/
theorem shiftToTargetExponent_settle {r : ℕ} (s : Sign) (hr : r ≤ 2 ^ 53) (he : -1074 ≤ e) :
    (let (em, e') := shiftToTargetExponent .binary64 r e .exact
      if h : em.mantissa = 0 then .zero s else .finite s em.mantissa e' (Nat.pos_of_ne_zero h)) =
    settle s r e := by
  have htarget : Format.binary64.targetExponent (totalExponent r e) = max (r.log2 + e - 52) (-1074) := by
    simp only [Format.targetExponent, totalExponent, Format.minExponent, Format.mantissaBits]
    omega
  rw [shiftToTargetExponent, shiftToExponent, htarget]
  by_cases hcarry : r = 2 ^ 53
  · have hshift : (max (((2 ^ 53 : ℕ).log2 : ℤ) + e - 52) (-1074) - e).toNat = 1 := by
      rw [Nat.log2_two_pow]
      omega
    rw [hcarry, hshift]
    rfl
  · have hlog : r.log2 ≤ 52 := by
      by_cases h : r = 0
      · simp [h]
      · have := (Nat.log2_lt h).2 (Nat.lt_of_le_of_ne hr hcarry)
        omega
    have hshift : (max ((r.log2 : ℤ) + e - 52) (-1074) - e).toNat = 0 := by omega
    rw [hshift, settle]
    simp only [if_neg hcarry, Nat.cast_zero, add_zero]
    rfl

/-- **Rounding.** What a ratio is rounded to is the nearest number of 53 bits. -/
theorem rounded_roundWithAccuracy (s : Sign) (hn : 0 < n) (hu : 0 < u)
    (he : e ≤ place (n / u * 2 ^ e)) : Rounded s (n / u * 2 ^ e)
      (roundWithAccuracy .binary64 s (n / u) e (accuracyOfFraction (n % u) u)) := by
  generalize hv : (n / u * 2 ^ e : ℚ) = v at he
  have hk : e + (place v - e).toNat = place v := by omega
  have hunit : v / 2 ^ place v = n / (u * 2 ^ (place v - e).toNat : ℕ) := by
    have hpow : (2 : ℚ) ^ place v = 2 ^ e * 2 ^ (place v - e).toNat := by
      rw [← zpow_natCast, ← zpow_add₀ (by norm_num), hk]
    rw [hpow]
    generalize (place v - e).toNat = k
    rw [← hv]
    push_cast
    field_simp
  have hnear := nearest_roundEven n (Nat.mul_pos hu (Nat.two_pow_pos (place v - e).toNat))
  rw [← hunit] at hnear
  have hle := hnear.le_of_lt (k := 2 ^ 53) (by exact_mod_cast lt_zpow_place v)
  refine ⟨_, hnear, ?_⟩
  rw [← shiftToTargetExponent_settle s hle (by rw [place]; omega), roundWithAccuracy,
    shiftToTargetExponent, targetExponent_eq hn hu (hv ▸ he), hv, shiftToExponent]
  simp only [roundedMantissa_fraction _ _ hu, hk]

end ratio

/-! ## Products and quotients -/

theorem le_log {v : ℚ} {p : ℤ} (hlo : 2 ^ p ≤ v) : p ≤ Int.log 2 v := by
  have := (zpow_lt_zpow_iff_right₀ (by norm_num : (1 : ℚ) < 2)).1 (lt_of_le_of_lt hlo (lt_zpow_log v))
  omega

section product

variable {m n : ℕ} {e f : ℤ} (s t : Sign) (hm : 0 < m) (hn : 0 < n)

/-- A product of at least 53 bits is rounded. -/
theorem rounded_mul (h : 2 ^ 52 ≤ m * n) : Rounded (s * t) (m * 2 ^ e * (n * 2 ^ f))
    (UnpackedFloat.mul .binary64 (.finite s m e hm) (.finite t n f hn)) := by
  have hv : (m * 2 ^ e * (n * 2 ^ f) : ℚ) = (m * n : ℕ) / (1 : ℕ) * 2 ^ (e + f) := by
    rw [zpow_add₀ (by norm_num)]
    push_cast
    ring
  have hplace : e + f ≤ place ((m * n : ℕ) / (1 : ℕ) * 2 ^ (e + f)) := by
    have hlog : (52 : ℤ) ≤ Int.log 2 ((m * n : ℕ) / (1 : ℕ) : ℚ) := by
      refine le_log ?_
      rw [Nat.cast_one, div_one]
      exact_mod_cast h
    rw [place, log_mul_zpow (by positivity)]
    omega
  have hround := rounded_roundWithAccuracy (s * t) (Nat.mul_pos hm hn) Nat.one_pos hplace
  rw [hv, UnpackedFloat.mul]
  simpa [Nat.mod_one, accuracyOfFraction] using hround

/-- A quotient is rounded. -/
theorem rounded_div : Rounded (s / t) (m * 2 ^ e / (n * 2 ^ f))
    (UnpackedFloat.div .binary64 (.finite s m e hm) (.finite t n f hn)) := by
  have htarget : Format.binary64.targetExponent (totalExponent m e - totalExponent n f) =
      max (m.log2 + e - (n.log2 + f) - 53) (-1074) := by
    simp only [Format.targetExponent, totalExponent, Format.minExponent, Format.mantissaBits]
    omega
  simp only [UnpackedFloat.div, divCore, htarget]
  generalize he' : min (e - f) (max ((m.log2 : ℤ) + e - (n.log2 + f) - 53) (-1074)) = e'
  have hv : (m * 2 ^ e / (n * 2 ^ f) : ℚ) = (m <<< (e - f - e').toNat : ℕ) / n * 2 ^ e' := by
    have hk : ((e - f - e').toNat : ℤ) = e - f - e' := by omega
    rw [Nat.shiftLeft_eq]
    push_cast
    rw [← zpow_natCast, hk, zpow_sub₀ (by norm_num), zpow_sub₀ (by norm_num)]
    field_simp
  have hlog : (m.log2 : ℤ) + e - (n.log2 + f) - 1 ≤ Int.log 2 (m * 2 ^ e / (n * 2 ^ f) : ℚ) := by
    have hlo : (2 : ℚ) ^ m.log2 ≤ m := by exact_mod_cast Nat.log2_self_le hm.ne'
    have hhi : (n : ℚ) ≤ 2 ^ (n.log2 + 1) := by exact_mod_cast Nat.lt_log2_self.le
    refine le_log ?_
    rw [le_div_iff₀ (by positivity)]
    calc (2 : ℚ) ^ ((m.log2 : ℤ) + e - (n.log2 + f) - 1) * (n * 2 ^ f)
        ≤ 2 ^ ((m.log2 : ℤ) + e - (n.log2 + f) - 1) * (2 ^ (n.log2 + 1) * 2 ^ f) := by gcongr
      _ = 2 ^ m.log2 * 2 ^ e := by
        rw [← zpow_natCast, ← zpow_natCast, ← zpow_add₀ (by norm_num), ← zpow_add₀ (by norm_num),
          ← zpow_add₀ (by norm_num)]
        congr 1
        push_cast
        ring
      _ ≤ m * 2 ^ e := by gcongr
  rw [hv] at hlog ⊢
  refine rounded_roundWithAccuracy _ (by rw [Nat.shiftLeft_eq]; positivity) hn ?_
  rw [place]
  omega

end product

/-! ## The range -/

/-- The numbers from here on have no finite neighbour that is nearest. -/
def limit : ℚ := 2 ^ 1024 - 2 ^ 970

theorem limit_eq : limit = (2 ^ 53 - 1 / 2) * 2 ^ (971 : ℤ) := by
  have hpow : (2 : ℚ) ^ 1024 = 2 ^ 54 * 2 ^ 970 := by rw [← pow_add]
  have hzpow : (2 : ℚ) ^ (971 : ℤ) = 2 * 2 ^ 970 := by
    rw [← pow_succ']
    rfl
  rw [limit, hpow, hzpow]
  generalize (2 : ℚ) ^ 970 = u
  ring

theorem limit_pos : 0 < limit := by
  rw [limit_eq]
  exact mul_pos (by norm_num) (by positivity)

/-- Whether a number is far enough below a power of two, at the last place `u`, to be rounded to less. -/
theorem lt_carry_iff {v : ℚ} {r : ℕ} {u : ℤ} (hv : 0 < v) (hr : Nearest (v / 2 ^ place v) r)
    (hu : -1074 ≤ u) :
    v < (2 ^ 53 - 1 / 2) * 2 ^ u ↔ place v < u ∨ place v = u ∧ r < 2 ^ 53 := by
  have hunit : (0 : ℚ) < 2 ^ u := by positivity
  have hw : v = v / 2 ^ place v * 2 ^ place v := by
    rw [div_mul_cancel₀ _ (by positivity)]
  rcases lt_trichotomy (place v) u with h | rfl | h
  · have hlt : v < (2 ^ 53 - 1 / 2) * 2 ^ u := by
      calc v = v / 2 ^ place v * 2 ^ place v := hw
        _ ≤ 2 ^ 53 * 2 ^ (u - 1) := by
          have := (lt_zpow_place v).le
          gcongr
          · norm_num
          · omega
        _ = 2 ^ 52 * 2 ^ u := by
          rw [zpow_sub_one₀ (by norm_num)]
          ring
        _ < (2 ^ 53 - 1 / 2) * 2 ^ u := by
          gcongr
          norm_num
    simp only [hlt, h, true_or]
  · rw [← div_lt_iff₀ hunit, hr.lt_iff (k := 2 ^ 53) (by decide)]
    norm_num
  · have hle : (2 ^ 53 - 1 / 2) * 2 ^ u ≤ v := by
      calc (2 ^ 53 - 1 / 2) * 2 ^ u ≤ 2 ^ 52 * 2 ^ (u + 1) := by
            rw [zpow_add_one₀ (by norm_num)]
            linarith
        _ ≤ v / 2 ^ place v * 2 ^ place v := by
          have := le_zpow_place hv (by omega)
          gcongr
          · norm_num
          · omega
        _ = v := hw.symm
    simp only [not_lt.2 hle, false_iff]
    omega

theorem exists_rounded {v : ℚ} (s : Sign) (hv : 0 < v) : ∃ f, Rounded s v f := by
  obtain ⟨r, hr⟩ := exists_nearest (w := v / 2 ^ place v) (by positivity)
  exact ⟨_, r, hr, rfl⟩

theorem Rounded.unique {s : Sign} {v : ℚ} {f g : UnpackedFloat} (hf : Rounded s v f)
    (hg : Rounded s v g) : f = g := by
  obtain ⟨r, hr, rfl⟩ := hf
  obtain ⟨r', hr', rfl⟩ := hg
  rw [hr.unique hr']

/-- A rounded number is zero or canonical. -/
theorem Rounded.cases {s : Sign} {v : ℚ} {f : UnpackedFloat} (hv : 0 < v) (h : Rounded s v f) :
    (f = .zero s ∧ v < limit) ∨
      ∃ m q, ∃ h : Canonical m q, f = .finite s m q h.pos ∧ (q ≤ 971 ↔ v < limit) := by
  obtain ⟨r, hr, rfl⟩ := h
  have hle : r ≤ 2 ^ 53 := hr.le_of_lt (by exact_mod_cast lt_zpow_place v)
  have hleast : -1074 ≤ place v := by
    rw [place]
    omega
  have hfull : 2 ^ 52 ≤ r ∨ place v = -1074 := by
    by_cases h : -1074 < place v
    · left
      exact hr.le_of_le (by exact_mod_cast le_zpow_place hv h)
    · right
      omega
  rw [limit_eq, lt_carry_iff hv hr (by norm_num), settle]
  split
  · left
    refine ⟨rfl, ?_⟩
    omega
  · right
    split
    · refine ⟨_, _, ⟨Nat.two_pow_pos 52, by omega, by omega, Or.inl le_rfl⟩, rfl, ?_⟩
      omega
    · refine ⟨_, _, ⟨by omega, by omega, hleast, hfull⟩, rfl, ?_⟩
      omega

end Conform.Binary
