import Conform.Decimal.Shortest
import Conform.Proofs.Decimal.Numeral

/-!
# The shortest decimal reads back

A positive binary number is read back from every decimal in its interval: from the middle between it and
the number below to the middle between it and the number above. The search for the shortest decimal
looks at the two neighbours of the number among the multiples of smaller and smaller powers of ten. It
never comes to its end without one, because with 17 digits the nearer neighbour is in the interval.

* `Within`: the interval, and `rounded_of_within`, that all of it is rounded to the number;
* `Target.holds_iff`: the test in whole numbers is the one for the interval;
* `Target.exists_pick_of`: 17 digits are enough;
* `rounds_shortest`: the main statement.
-/

namespace Conform.Binary

open Float.Model
open Float.Model.UnpackedFloat

/-! ## The interval of a number -/

/-- The end of the interval below `m · 2 ^ q`. Below a power of two the next number is half as far. -/
def below (m : ℕ) (q : ℤ) : ℚ :=
  if m = 2 ^ 52 ∧ -1074 < q then (m - 1 / 4) * 2 ^ q else (m - 1 / 2) * 2 ^ q

/-- The end of the interval above `m · 2 ^ q`. -/
def above (m : ℕ) (q : ℤ) : ℚ := (m + 1 / 2) * 2 ^ q

/-- The number `v` is in the interval of `m · 2 ^ q`, which has its ends if `m` is even. -/
def Within (m : ℕ) (q : ℤ) (v : ℚ) : Prop :=
  if m % 2 = 0 then below m q ≤ v ∧ v ≤ above m q else below m q < v ∧ v < above m q

theorem Within.le {m : ℕ} {q : ℤ} {v : ℚ} (h : Within m q v) : below m q ≤ v ∧ v ≤ above m q := by
  rw [Within] at h
  split at h
  · exact h
  · exact ⟨h.1.le, h.2.le⟩

theorem nearest_of_abs_le {w : ℚ} {r : ℕ} (h : |w - r| ≤ 1 / 2) (heven : r % 2 = 0) : Nearest w r :=
  h.lt_or_eq.imp_right fun heq => ⟨heq, heven⟩

theorem two_zpow_add (q : ℤ) (k : ℕ) : (2 : ℚ) ^ (q + k) = 2 ^ k * 2 ^ q := by
  rw [zpow_add₀ (by norm_num), zpow_natCast, mul_comm]

theorem place_eq {v : ℚ} {q : ℤ} (hv : 0 < v) (hq : -1074 ≤ q) (hlo : 2 ^ 52 * 2 ^ q ≤ v ∨ q = -1074)
    (hhi : v < 2 ^ 53 * 2 ^ q) : place v = q := by
  rw [← two_zpow_add] at hlo hhi
  have hlt : Int.log 2 v < q + 53 :=
    (zpow_lt_zpow_iff_right₀ (by norm_num : (1 : ℚ) < 2)).1 (lt_of_le_of_lt (zpow_log_le hv) hhi)
  rw [place]
  rcases hlo with hlo | rfl
  · have hle : q + 52 ≤ Int.log 2 v := le_log hlo
    omega
  · omega

section within

variable {m : ℕ} {q : ℤ} {v : ℚ}

theorem half_le_below (m : ℕ) (q : ℤ) : (m - 1 / 2) * 2 ^ q ≤ below m q := by
  rw [below]
  split
  · gcongr
    norm_num
  · exact le_rfl

theorem pos_of_within (hpos : 0 < m) (h : Within m q v) : 0 < v := by
  have hone : (1 : ℚ) ≤ m := by exact_mod_cast hpos
  calc (0 : ℚ) < (m - 1 / 2) * 2 ^ q := mul_pos (by linarith) (by positivity)
    _ ≤ below m q := half_le_below m q
    _ ≤ v := h.le.1

/-- In units of its last place, the number is the nearest. -/
theorem nearest_of_within (h : Within m q v) : Nearest (v / 2 ^ q) m := by
  have hunit : (0 : ℚ) < 2 ^ q := by positivity
  have hbelow := half_le_below m q
  rw [Within, above] at h
  split at h
  · rename_i heven
    have hlo : m - 1 / 2 ≤ v / 2 ^ q := (le_div_iff₀ hunit).2 (hbelow.trans h.1)
    have hhi : v / 2 ^ q ≤ m + 1 / 2 := (div_le_iff₀ hunit).2 h.2
    have habs : |v / 2 ^ q - m| ≤ 1 / 2 := abs_le.2 ⟨by linarith, by linarith⟩
    exact nearest_of_abs_le habs heven
  · have hlo : m - 1 / 2 < v / 2 ^ q := (lt_div_iff₀ hunit).2 (lt_of_le_of_lt hbelow h.1)
    have hhi : v / 2 ^ q < m + 1 / 2 := (div_lt_iff₀ hunit).2 h.2
    exact Or.inl (abs_lt.2 ⟨by linarith, by linarith⟩)

/-- The last place of what is in the interval, unless it is below a power of two. -/
theorem place_of_within (hcanonical : Canonical m q) (h : Within m q v)
    (hpower : m = 2 ^ 52 → -1074 < q → 2 ^ 52 * 2 ^ q ≤ v) : place v = q := by
  have hlt : (m : ℚ) + 1 ≤ 2 ^ 53 := by exact_mod_cast hcanonical.lt
  obtain ⟨hlo, hhi⟩ := h.le
  refine place_eq (pos_of_within hcanonical.pos h) hcanonical.le ?_ ?_
  · by_cases hq : q = -1074
    · exact Or.inr hq
    · left
      rcases (hcanonical.full.resolve_right hq).eq_or_lt with heq | hgt
      · have hle := hcanonical.le
        exact hpower heq.symm (by omega)
      · have hfull : (2 : ℚ) ^ 52 + 1 ≤ m := by exact_mod_cast hgt
        calc (2 : ℚ) ^ 52 * 2 ^ q ≤ (m - 1 / 2) * 2 ^ q := by
              gcongr
              linarith
          _ ≤ below m q := half_le_below m q
          _ ≤ v := hlo
  · calc v ≤ (m + 1 / 2) * 2 ^ q := hhi
      _ < 2 ^ 53 * 2 ^ q := by
        gcongr
        linarith

/-- Below a power of two the places are finer, and rounding carries. -/
theorem rounded_carry (s : Sign) (hq : -1074 < q) (hlo : (2 ^ 52 - 1 / 4) * 2 ^ q ≤ v)
    (hhi : v < 2 ^ 52 * 2 ^ q) : Rounded s v (.finite s (2 ^ 52) q (Nat.two_pow_pos 52)) := by
  have hunit : (0 : ℚ) < 2 ^ q := by positivity
  have hfine : (2 : ℚ) ^ (q - 1) = 2 ^ q / 2 := by rw [zpow_sub_one₀ (by norm_num), div_eq_mul_inv]
  have hv : 0 < v := lt_of_lt_of_le (mul_pos (by norm_num) hunit) hlo
  have hplace : place v = q - 1 := by
    refine place_eq hv (by omega) (Or.inl ?_) ?_
    · rw [hfine]
      linarith
    · rw [hfine]
      linarith
  refine ⟨2 ^ 53, ?_, ?_⟩
  · rw [hplace, hfine, div_div_eq_mul_div, mul_div_right_comm]
    have hlo' := (le_div_iff₀ hunit).2 hlo
    have hhi' := (div_lt_iff₀ hunit).2 hhi
    refine nearest_of_abs_le (abs_le.2 ⟨?_, ?_⟩) (by decide)
    · push_cast
      linarith
    · push_cast
      linarith
  · rw [hplace, settle, dif_neg (by norm_num), if_pos rfl, sub_add_cancel]

/-- **The interval.** Whatever is in the interval of a number is rounded to it. -/
theorem rounded_of_within (s : Sign) (hcanonical : Canonical m q) (h : Within m q v) :
    Rounded s v (.finite s m q hcanonical.pos) := by
  by_cases hcarry : (m = 2 ^ 52 ∧ -1074 < q) ∧ v < 2 ^ 52 * 2 ^ q
  · obtain ⟨⟨rfl, hq⟩, hhi⟩ := hcarry
    have hlo := h.le.1
    rw [below, if_pos ⟨rfl, hq⟩] at hlo
    exact rounded_carry s hq (by exact_mod_cast hlo) hhi
  · have hplace : place v = q := by
      refine place_of_within hcanonical h fun hm hq => ?_
      by_contra hhi
      exact hcarry ⟨⟨hm, hq⟩, not_le.1 hhi⟩
    refine ⟨m, ?_, ?_⟩
    · rw [hplace]
      exact nearest_of_within h
    · rw [hplace, settle, dif_neg hcanonical.pos.ne', if_neg hcanonical.lt.ne]

/-- What is off by less than one part in `2 ^ 54` is in the interval. -/
theorem within_of_abs_lt (h : Canonical m q) (hv : |v - m * 2 ^ q| < m * 2 ^ q / 2 ^ 54) :
    Within m q v := by
  have hunit : (0 : ℚ) < 2 ^ q := by positivity
  have hlt : (m : ℚ) ≤ 2 ^ 53 := by exact_mod_cast h.lt.le
  obtain ⟨hlo, hhi⟩ := abs_lt.1 hv
  have hmargin : ∀ e : ℚ, m / 2 ^ 54 ≤ e → m * 2 ^ q / 2 ^ 54 ≤ e * 2 ^ q := by
    intro e he
    rw [mul_div_right_comm]
    gcongr
  have hbelow : below m q < v := by
    rw [below]
    split
    · rename_i hnarrow
      have := hmargin (1 / 4) (by rw [hnarrow.1]; norm_num)
      rw [sub_mul]
      linarith
    · have := hmargin (1 / 2) (by linarith)
      rw [sub_mul]
      linarith
  have habove : v < above m q := by
    have := hmargin (1 / 2) (by linarith)
    rw [above, add_mul]
    linarith
  rw [Within]
  split
  · exact ⟨hbelow.le, habove.le⟩
  · exact ⟨hbelow, habove⟩

end within

end Conform.Binary

namespace Conform.Decimal

open Binary

/-- The number that a decimal stands for. -/
def value (d : Decimal) : ℚ := d.digits * 10 ^ d.exponent

theorem value_strip (fuel : ℕ) (d : Decimal) : (strip fuel d).value = d.value := by
  induction fuel generalizing d with
  | zero => rfl
  | succ fuel ih =>
    rw [strip]
    split
    · rename_i h
      have hdigits : (d.digits : ℚ) = (d.digits / 10 : ℕ) * 10 := by
        exact_mod_cast (Nat.div_mul_cancel (Nat.dvd_of_mod_eq_zero h.2)).symm
      rw [ih, value, value, hdigits, zpow_add_one₀ (by norm_num)]
      ring
    · rfl

namespace Target

/-! ## The interval in whole numbers -/

theorem zpow_eq_div {b : ℕ} (hb : 0 < b) (g : ℤ) :
    (b : ℚ) ^ g = (Nat.pow b g.toNat : ℕ) / (Nat.pow b (-g).toNat : ℕ) := by
  have hb' : (b : ℚ) ≠ 0 := by positivity
  simp only [Nat.pow_eq, Nat.cast_pow]
  rw [eq_div_iff (by positivity), ← zpow_natCast, ← zpow_natCast, ← zpow_add₀ hb']
  congr 1
  omega

section of

variable (m : ℕ) (q : ℤ)

theorem denom_pos : 0 < (of m q).denom := Nat.two_pow_pos _

/-- The numbers of an interval are given in quarters. -/
theorem ratio_of (k : ℕ) :
    ((k * Nat.pow 2 (q - 2).toNat : ℕ) / (of m q).denom : ℚ) = k / 4 * 2 ^ q := by
  have hneg : -(q - 2) = 2 - q := by omega
  have hscale := zpow_eq_div (b := 2) (by decide) (q - 2)
  rw [hneg, Nat.cast_two, zpow_sub₀ (by norm_num)] at hscale
  rw [show (of m q).denom = Nat.pow 2 (2 - q).toNat from rfl, Nat.cast_mul, mul_div_assoc, ← hscale]
  ring

theorem mid_of : ((of m q).mid / (of m q).denom : ℚ) = m * 2 ^ q := by
  rw [show (of m q).mid = 4 * m * Nat.pow 2 (q - 2).toNat from rfl, ratio_of]
  push_cast
  ring

theorem high_of : ((of m q).high / (of m q).denom : ℚ) = above m q := by
  rw [show (of m q).high = (4 * m + 2) * Nat.pow 2 (q - 2).toNat from rfl, ratio_of, above]
  push_cast
  ring

theorem low_of (hm : 0 < m) : ((of m q).low / (of m q).denom : ℚ) = below m q := by
  have hlow : (of m q).low =
      (if m = 2 ^ 52 ∧ -1074 < q then 4 * m - 1 else 4 * m - 2) * Nat.pow 2 (q - 2).toNat := by
    simp [of]
  rw [hlow, ratio_of, below]
  split
  · rw [Nat.cast_sub (by omega)]
    push_cast
    ring
  · rw [Nat.cast_sub (by omega)]
    push_cast
    ring

end of

/-- The test in whole numbers is the one for the interval. -/
theorem holds_iff {m : ℕ} {q : ℤ} (hm : 0 < m) (c : ℕ) (g : ℤ) :
    (of m q).holds c g = true ↔ Within m q (c * 10 ^ g) := by
  have hdenom : (0 : ℚ) < (of m q).denom := by exact_mod_cast denom_pos m q
  have hscale : (0 : ℚ) < (Nat.pow 10 (-g).toNat : ℕ) := by exact_mod_cast Nat.pow_pos (by decide)
  have hclosed : (of m q).closed = (m % 2 == 0) := rfl
  have hvalue : (c * 10 ^ g : ℚ) = (c * Nat.pow 10 g.toNat : ℕ) / (Nat.pow 10 (-g).toNat : ℕ) := by
    have hpow := zpow_eq_div (b := 10) (by decide) g
    rw [Nat.cast_ofNat] at hpow
    rw [hpow, Nat.cast_mul, mul_div_assoc]
  rw [Within, ← low_of m q hm, ← high_of, hvalue]
  simp only [div_le_div_iff₀ hdenom hscale, div_le_div_iff₀ hscale hdenom,
    div_lt_div_iff₀ hdenom hscale, div_lt_div_iff₀ hscale hdenom]
  norm_cast
  simp only [holds, hclosed]
  by_cases heven : m % 2 = 0 <;> simp [heven]

/-! ## The search -/

/-- What is picked is in the interval. -/
theorem pick_eq_some {t : Target} {g : ℤ} {d : Decimal} (h : t.pick g = some d) :
    d.exponent = g ∧ t.holds d.digits g = true := by
  simp only [pick] at h
  split at h
  · rename_i hc hc'
    split at h <;> obtain rfl := Option.some.inj h
    · exact ⟨rfl, hc⟩
    · exact ⟨rfl, hc'⟩
  · rename_i hc _
    obtain rfl := Option.some.inj h
    exact ⟨rfl, hc⟩
  · rename_i _ hc'
    obtain rfl := Option.some.inj h
    exact ⟨rfl, hc'⟩
  · cases h

/-- Something is picked if one of the two neighbours is in the interval. -/
theorem exists_pick {t : Target} {g : ℤ} {c : ℕ}
    (hc : c = t.mid * Nat.pow 10 (-g).toNat / (Nat.pow 10 g.toNat * t.denom))
    (h : t.holds c g = true ∨ t.holds (c + 1) g = true) : ∃ d, t.pick g = some d := by
  simp only [pick, ← hc]
  split
  · split <;> exact ⟨_, rfl⟩
  · exact ⟨_, rfl⟩
  · exact ⟨_, rfl⟩
  · rename_i hc hc'
    simp [hc, hc'] at h

/-- The two neighbours of a number among the multiples of a power of ten. -/
theorem neighbours {t : Target} {g : ℤ} {c : ℕ} (hdenom : 0 < t.denom)
    (hc : c = t.mid * Nat.pow 10 (-g).toNat / (Nat.pow 10 g.toNat * t.denom)) :
    (c * 10 ^ g : ℚ) ≤ t.mid / t.denom ∧ (t.mid / t.denom : ℚ) < (c + 1 : ℕ) * 10 ^ g := by
  have hup : 0 < Nat.pow 10 g.toNat := Nat.pow_pos (by decide)
  have hdown : 0 < Nat.pow 10 (-g).toNat := Nat.pow_pos (by decide)
  have hpow := zpow_eq_div (b := 10) (by decide) g
  rw [Nat.cast_ofNat] at hpow
  have hle := Nat.div_mul_le_self (t.mid * Nat.pow 10 (-g).toNat) (Nat.pow 10 g.toNat * t.denom)
  have hlt := Nat.lt_div_mul_add (a := t.mid * Nat.pow 10 (-g).toNat) (Nat.mul_pos hup hdenom)
  rw [← hc] at hle hlt
  rw [hpow, ← mul_div_assoc, ← mul_div_assoc]
  constructor
  · rw [div_le_div_iff₀ (by exact_mod_cast hdown) (by exact_mod_cast hdenom), mul_assoc]
    exact_mod_cast hle
  · rw [div_lt_div_iff₀ (by exact_mod_cast hdenom) (by exact_mod_cast hdown), mul_assoc,
      Nat.cast_add_one, add_one_mul]
    exact_mod_cast hlt

theorem lt_pow_width (n : ℕ) : n < 10 ^ width n :=
  (Nat.length_toDigits_le_iff (by decide) Nat.length_toDigits_pos).1 le_rfl

theorem pow_width_le {n : ℕ} (hn : 0 < n) : 10 ^ (width n - 1) ≤ n := by
  by_cases h : width n - 1 = 0
  · rw [h]
    exact hn
  · have hlt : ¬ width n ≤ width n - 1 := by omega
    exact Nat.le_of_not_lt (mt (Nat.length_toDigits_le_iff (by decide) (Nat.pos_of_ne_zero h)).2 hlt)

/-- The power of ten at the first digit is not above the number. -/
theorem zpow_top_le {t : Target} (hdenom : 0 < t.denom) (hmid : 0 < t.mid) :
    (10 : ℚ) ^ (t.top - 1) ≤ t.mid / t.denom := by
  have hdenom' : (0 : ℚ) < t.denom := by exact_mod_cast hdenom
  simp only [top]
  split
  · rename_i h
    generalize (width t.denom : ℤ) - width t.mid = j at h
    have hpow := zpow_eq_div (b := 10) (by decide) (-j)
    rw [Nat.cast_ofNat, neg_neg] at hpow
    have hscale : 0 < Nat.pow 10 j.toNat := Nat.pow_pos (by decide)
    rw [show 1 - j - 1 = -j by omega, hpow, div_le_div_iff₀ (by exact_mod_cast hscale) hdenom',
      mul_comm]
    exact_mod_cast h
  · have hexp : -((width t.denom : ℤ) - width t.mid) - 1 =
        (width t.mid - 1 : ℕ) - (width t.denom : ℕ) := by
      have : 0 < width t.mid := Nat.length_toDigits_pos
      omega
    have hlo : (10 : ℚ) ^ (width t.mid - 1) ≤ t.mid := by exact_mod_cast pow_width_le hmid
    have hhi : (t.denom : ℚ) ≤ 10 ^ width t.denom := by exact_mod_cast (lt_pow_width t.denom).le
    rw [hexp, zpow_sub₀ (by norm_num), zpow_natCast, zpow_natCast]
    gcongr

/-- With 17 digits one of the neighbours is in the interval. -/
theorem exists_pick_of {m : ℕ} {q : ℤ} (h : Canonical m q) :
    ∃ d, (of m q).pick ((of m q).top - 17) = some d := by
  have hdenom := denom_pos m q
  have hmid : 0 < (of m q).mid := by
    have := h.pos
    exact Nat.mul_pos (by omega) (Nat.two_pow_pos _)
  have htop := zpow_top_le hdenom hmid
  obtain ⟨hlo, hhi⟩ := neighbours (g := (of m q).top - 17) hdenom rfl
  refine exists_pick rfl ?_
  generalize (of m q).mid * _ / _ = c at hlo hhi
  rw [holds_iff h.pos, holds_iff h.pos]
  rw [mid_of] at htop hlo hhi
  have hunit : (10 : ℚ) ^ ((of m q).top - 17) * 10 ^ 16 = 10 ^ ((of m q).top - 1) := by
    rw [← zpow_natCast, ← zpow_add₀ (by norm_num)]
    congr 1
    push_cast
    omega
  have hpos : (0 : ℚ) < 10 ^ ((of m q).top - 17) := by positivity
  generalize (10 : ℚ) ^ ((of m q).top - 17) = u at *
  rw [← hunit] at htop
  push_cast at hhi ⊢
  have hu : u / 2 < m * 2 ^ q / 2 ^ 54 := by
    rw [div_lt_div_iff₀ (by norm_num) (by norm_num)]
    linarith
  rcases le_total (m * 2 ^ q - c * u) (u / 2) with hc | hc
  · left
    refine within_of_abs_lt h (lt_of_le_of_lt ?_ hu)
    rw [abs_le]
    constructor <;> linarith
  · right
    refine within_of_abs_lt h (lt_of_le_of_lt ?_ hu)
    rw [abs_le]
    constructor <;> linarith

end Target

/-- The search finds a decimal in the interval. -/
theorem within_shortest {m : ℕ} {q : ℤ} (h : Canonical m q) : Within m q (shortest m q).value := by
  obtain ⟨d, hd⟩ := Target.exists_pick_of h
  have hsome : ((List.range 17).map fun n : ℕ => (Target.of m q).top - (n + 1 : ℕ)).findSome?
      (Target.of m q).pick ≠ none := by
    intro hnone
    have hlast := List.findSome?_eq_none_iff.1 hnone _ (List.mem_map.2 ⟨16, by simp, rfl⟩)
    rw [show (Target.of m q).top - (16 + 1 : ℕ) = (Target.of m q).top - 17 from rfl, hd] at hlast
    cases hlast
  obtain ⟨d, hd⟩ := Option.ne_none_iff_exists'.1 hsome
  simp only [shortest, value_strip, hd, Option.getD_some]
  obtain ⟨g, -, hg⟩ := List.exists_of_findSome?_eq_some hd
  obtain ⟨rfl, hholds⟩ := Target.pick_eq_some hg
  exact (Target.holds_iff h.pos _ _).1 hholds

/-- **The shortest decimal of a number is read as the number.** -/
theorem rounds_shortest {x : Float} (hpos : 0 < x) (hx : x.isFinite = true) :
    Rounds (shortest (ofFloat x).significand (ofFloat x).exponent).value x := by
  obtain ⟨-, hcanonical, hmodel⟩ := toModel_of_pos hpos hx
  exact ⟨_, rounded_of_within .positive hcanonical (within_shortest hcanonical), hmodel⟩

end Conform.Decimal
