import Conform.Decimal.Layout
import Mathlib

/-!
# The bits of binary numbers

A finite number is a significand times a power of two. One of its 53 bits is not kept: a field of its
own holds the exponent, and says whether the first bit is there.

* `Canonical`: the significand and exponent that a number is written with;
* `toNat_pack`, `unpack_pack`: the bits of such a number, and that it is read back from them;
* `isFinite_pack`: beyond the greatest exponent a number becomes infinite;
* `toModel_of_isFinite`: every finite number is what its fields say.
-/

namespace Conform.Binary

open Float.Model
open Float.Model.UnpackedFloat

/-! ## Numbers in their bits -/

/-- The sign of a binary number. -/
def sign (b : Binary) : Sign := if b.negative then .negative else .positive

/-- The numbers `m · 2 ^ q` that are written with this significand and exponent: with 53 bits and the
first of them set, or with fewer and the least exponent. -/
structure Canonical (m : ℕ) (q : ℤ) : Prop where
  pos : 0 < m
  lt : m < 2 ^ 53
  le : -1074 ≤ q
  full : 2 ^ 52 ≤ m ∨ q = -1074

theorem toNat_packComponents (s : Sign) (x : BitVec 11) (y : BitVec 52) :
    (packComponents .binary64 s x y).toNat = s.toBitVec.toNat * 2 ^ 63 + x.toNat * 2 ^ 52 + y.toNat := by
  have hx := x.isLt
  have hy := y.isLt
  rw [packComponents, BitVec.toNat_append, ← Nat.shiftLeft_add_eq_or_of_lt hy, BitVec.toNat_append,
    ← Nat.shiftLeft_add_eq_or_of_lt hx, Nat.shiftLeft_eq, Nat.shiftLeft_eq]
  omega

/-! ## Packing -/

theorem ofBitVec_unpackSign (s : Sign) (x : BitVec 11) (y : BitVec 52) :
    Sign.ofBitVec (unpackSign (packComponents .binary64 s x y)) = s := by
  simp only [unpackSign, packComponents, BitVec.extractLsb]
  rw [BitVec.extractLsb'_append_eq_of_le (by omega), BitVec.extractLsb'_append_eq_of_le (by omega)]
  cases s <;> rfl

/-- The first bit is not written, and it is put back in front of the other 52. -/
theorem toNat_one_append {m : Nat} (hlo : 2 ^ 52 ≤ m) (hhi : m < 2 ^ 53) :
    (1#1 ++ BitVec.ofNat 52 m).toNat = m := by
  rw [BitVec.toNat_append, ← Nat.shiftLeft_add_eq_or_of_lt (BitVec.ofNat 52 m).isLt,
    BitVec.toNat_ofNat]
  simp only [BitVec.toNat_ofNat, Nat.shiftLeft_eq]
  omega

/-- A number with all its 53 bits, from the field `x` of its exponent. -/
theorem unpack_packComponents {m x : Nat} {hm : 0 < m} (s : Sign) (hlo : 2 ^ 52 ≤ m)
    (hhi : m < 2 ^ 53) (hx : 0 < x) (hx' : x < 2047) :
    UnpackedFloat.unpack .binary64
      (packComponents .binary64 s (BitVec.ofNat 11 x) (BitVec.ofNat 52 m)) =
        .finite s m (x - 1075) hm := by
  have hfield : (BitVec.ofNat 11 x).toNat = x := by
    rw [BitVec.toNat_ofNat, Nat.mod_eq_of_lt (by omega)]
  have hones : BitVec.ofNat 11 x ≠ -1#11 := by
    intro h
    rw [h] at hfield
    exact absurd hfield (by change 2047 ≠ x; omega)
  have hzeros : BitVec.ofNat 11 x ≠ 0#11 := by
    intro h
    rw [h] at hfield
    exact absurd hfield (by change 0 ≠ x; omega)
  simp only [UnpackedFloat.unpack, unpackExponent_packComponents, unpackMantissa_packComponents]
  rw [if_neg hones, if_neg hzeros]
  simp only [ofBitVec_unpackSign, toNat_one_append hlo hhi, hfield]
  rfl

section pack

variable {m : ℕ} {q : ℤ} (s : Sign)

theorem Canonical.log2_eq (h : Canonical m q) : m.log2 + 1 = 53 ↔ 2 ^ 52 ≤ m := by
  have hlt := (Nat.log2_lt h.pos.ne').2 h.lt
  have hle := Nat.le_log2 h.pos.ne' (k := 52)
  omega

/-- Beyond the greatest exponent there is nothing but the infinite numbers. -/
theorem pack_of_lt (h : Canonical m q) (hq : 971 < q) :
    UnpackedFloat.pack .binary64 (.finite s m q h.pos) = packedInfinity .binary64 s := by
  rw [UnpackedFloat.pack]
  dsimp only
  rw [if_pos]
  simp only [Format.exponentBias]
  omega

/-- A number is packed with the field of its exponent, and without the first bit if all are there. -/
theorem pack_of_le (h : Canonical m q) (hq : q ≤ 971) :
    UnpackedFloat.pack .binary64 (.finite s m q h.pos) = packComponents .binary64 s
      (BitVec.ofNat 11 (if 2 ^ 52 ≤ m then (q + 1075).toNat else 0)) (BitVec.ofNat 52 m) := by
  have hle := h.le
  rw [UnpackedFloat.pack]
  dsimp only
  rw [if_neg (by simp only [Format.exponentBias]; omega)]
  change (if m.log2 + 1 = 53 then _ else _) = _
  simp only [h.log2_eq]
  have hfield : (q + Format.binary64.exponentBias + Format.binary64.mantissaBitsWithoutImplicit).toNat =
      (q + 1075).toNat := by
    simp only [Format.exponentBias]
    omega
  split
  · rw [hfield]
  · rfl

/-- The bits of a number, as one number: the significand counts on through the exponents. -/
theorem toNat_pack (h : Canonical m q) (hq : q ≤ 971) :
    (UnpackedFloat.pack .binary64 (.finite s m q h.pos)).toNat =
      s.toBitVec.toNat * 2 ^ 63 + (q + 1074).toNat * 2 ^ 52 + m := by
  obtain ⟨hpos, hlt, hle, hfull⟩ := h
  rw [pack_of_le s ⟨hpos, hlt, hle, hfull⟩ hq, toNat_packComponents, BitVec.toNat_ofNat,
    BitVec.toNat_ofNat]
  split <;> omega

/-- Numbers are read back from their bits. -/
theorem unpack_pack (h : Canonical m q) (hq : q ≤ 971) :
    (Float.Model.pack (.finite s m q h.pos)).unpack = .finite s m q h.pos := by
  change UnpackedFloat.unpack .binary64 (UnpackedFloat.pack .binary64 _) = _
  have hle := h.le
  rw [pack_of_le s h hq]
  split
  · rename_i hm
    have hexp : (((q + 1075).toNat : ℕ) : ℤ) - 1075 = q := by omega
    rw [@unpack_packComponents m _ h.pos s hm h.lt (by omega) (by omega), hexp]
  · rename_i hm
    obtain rfl := h.full.resolve_left hm
    have hval : (BitVec.ofNat 52 m).toNat = m := by
      rw [BitVec.toNat_ofNat, Nat.mod_eq_of_lt (by omega)]
    have hne : BitVec.ofNat 52 m ≠ 0#52 := by
      intro h0
      rw [h0] at hval
      exact h.pos.ne hval
    simp only [UnpackedFloat.unpack, unpackExponent_packComponents, unpackMantissa_packComponents]
    rw [if_neg (by decide), if_true, dif_neg hne]
    simp only [ofBitVec_unpackSign, hval]
    rfl

theorem isFinite_pack (h : Canonical m q) :
    (Float.ofModel (Float.Model.pack (.finite s m q h.pos))).isFinite = true ↔ q ≤ 971 := by
  change (Float.Model.pack _).unpack.isFinite = true ↔ _
  by_cases hq : q ≤ 971
  · simp [unpack_pack s h hq, hq, UnpackedFloat.isFinite]
  · have hinf : Float.Model.pack (.finite s m q h.pos) = Float.Model.pack (.infinity s) := by
      simp only [Float.Model.pack, pack_of_lt s h (by omega)]
      rfl
    have hnot : (Float.Model.pack (.infinity s)).unpack.isFinite = false := by cases s <;> rfl
    rw [hinf, hnot]
    simpa using hq

end pack

/-! ## The fields of a number -/

theorem toNat_unpackExponent (b : BitVec 64) :
    (@unpackExponent .binary64 b).toNat = b.toNat / 2 ^ 52 % 2 ^ 11 := by
  simp [unpackExponent, Nat.shiftRight_eq_div_pow]

section fields

variable {x : Float}

/-- The field of the exponent is full for the numbers that are not finite. -/
theorem exponent_of_isFinite (hx : x.isFinite = true) : x.toBits.toNat / 2 ^ 52 % 2 ^ 11 ≠ 2047 := by
  intro hfield
  have hones : @unpackExponent .binary64 x.toModel.toBits.toBitVec = -1#11 := by
    refine BitVec.eq_of_toNat_eq ?_
    rw [toNat_unpackExponent]
    exact hfield
  change (UnpackedFloat.unpack .binary64 x.toModel.toBits.toBitVec).isFinite = true at hx
  rw [UnpackedFloat.unpack] at hx
  dsimp only at hx
  rw [if_pos hones] at hx
  split at hx <;> cases hx

theorem toNat_sign : (ofFloat x).sign.toBitVec.toNat = x.toBits.toNat / 2 ^ 63 := by
  have hlt := x.toBits.toNat_lt
  have hneg : (ofFloat x).negative = (x.toBits.toNat / 2 ^ 63 == 1) := rfl
  rw [sign, hneg]
  obtain h | h : x.toBits.toNat / 2 ^ 63 = 0 ∨ x.toBits.toNat / 2 ^ 63 = 1 := by omega
  all_goals
    rw [h]
    rfl

theorem toModel_eq {f : UnpackedFloat}
    (h : x.toBits.toNat = (UnpackedFloat.pack .binary64 f).toNat) : x.toModel = Float.Model.pack f := by
  have hbits : x.toModel.toBits = (Float.Model.pack f).toBits := UInt64.toNat_inj.1 h
  cases hx : x.toModel
  cases hf : Float.Model.pack f
  rw [hx, hf] at hbits
  cases hbits
  rfl

/-- **The fields of a finite number.** -/
theorem toModel_of_isFinite (hx : x.isFinite = true) :
    ((ofFloat x).significand = 0 ∧ x.toModel = Float.Model.pack (.zero (ofFloat x).sign)) ∨
    ∃ h : Canonical (ofFloat x).significand (ofFloat x).exponent, (ofFloat x).exponent ≤ 971 ∧
      x.toModel = Float.Model.pack
        (.finite (ofFloat x).sign (ofFloat x).significand (ofFloat x).exponent h.pos) := by
  have hfield := exponent_of_isFinite hx
  have hsign := toNat_sign (x := x)
  have hm : (ofFloat x).significand = if x.toBits.toNat / 2 ^ 52 % 2 ^ 11 = 0 then
    x.toBits.toNat % 2 ^ 52 else x.toBits.toNat % 2 ^ 52 + 2 ^ 52 := rfl
  have hq : (ofFloat x).exponent = if x.toBits.toNat / 2 ^ 52 % 2 ^ 11 = 0 then -1074
    else ((x.toBits.toNat / 2 ^ 52 % 2 ^ 11 : ℕ) : ℤ) - 1075 := rfl
  generalize (ofFloat x).significand = m at hm
  generalize (ofFloat x).exponent = q at hq
  by_cases hzero : m = 0
  · left
    refine ⟨hzero, toModel_eq ?_⟩
    rw [UnpackedFloat.pack, packedZero, toNat_packComponents, hsign]
    change x.toBits.toNat = _ + 0 * 2 ^ 52 + 0
    split at hm <;> omega
  · right
    have hcanonical : Canonical m q := by
      constructor <;> split at hm <;> omega
    refine ⟨hcanonical, by split at hq <;> omega, toModel_eq ?_⟩
    rw [toNat_pack _ hcanonical (by split at hq <;> omega), hsign]
    split at hm <;> omega

theorem pos_iff : 0 < x ↔ (UnpackedFloat.zero .positive).compare x.toModel.unpack = some .lt := by
  change decide (((UnpackedFloat.zero .positive).compare x.toModel.unpack == some .lt) = true) = true ↔ _
  simp

/-- The fields of a positive number. -/
theorem toModel_of_pos (hpos : 0 < x) (hx : x.isFinite = true) : (ofFloat x).negative = false ∧
    ∃ h : Canonical (ofFloat x).significand (ofFloat x).exponent, x.toModel = Float.Model.pack
      (.finite .positive (ofFloat x).significand (ofFloat x).exponent h.pos) := by
  have hlt := pos_iff.1 hpos
  rcases toModel_of_isFinite hx with ⟨-, hzero⟩ | ⟨hcanonical, hle, hfinite⟩
  · have hunpack : x.toModel.unpack = .zero (ofFloat x).sign := by
      rw [hzero]
      cases (ofFloat x).sign <;> rfl
    rw [hunpack] at hlt
    cases hlt
  · rw [hfinite, unpack_pack _ hcanonical hle] at hlt
    rw [sign] at hlt hfinite
    cases hneg : (ofFloat x).negative with
    | false =>
      rw [hneg] at hfinite
      exact ⟨rfl, hcanonical, hfinite⟩
    | true =>
      rw [hneg] at hlt
      cases hlt

end fields

end Conform.Binary
