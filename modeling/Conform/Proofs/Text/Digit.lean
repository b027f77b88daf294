import Conform.Text.Blank
import Conform.Text.Digit
import Mathlib

/-!
# Digits

A run of ASCII digits is told by its length and the number that it writes. A digit of another script
writes no number, but it is no white space either, and no sign: so what takes digits of all scripts and
what takes white space, signs and ASCII digits agree on where a number starts.

* `natOfDigits_inj`: digits of one length that write the same number;
* `isDecimal_of_isDigit`, `dropBlank_of_isDecimal`: the digits of all scripts;
* `spanDigits_run`, `spanDecimals_run`: a run is taken whole when no digit follows.
-/

namespace Conform.Text

/-! ## The numbers that digits write -/

variable {ds : List Char}

theorem toNat_of_isDigit {c : Char} (h : c.isDigit = true) : 48 ≤ c.toNat ∧ c.toNat ≤ 57 := by
  simp only [Char.isDigit, Bool.and_eq_true, decide_eq_true_eq] at h
  exact h

theorem digitVal_lt {c : Char} (h : c.isDigit = true) : digitVal c < 10 := by
  have := toNat_of_isDigit h
  simp only [digitVal, Char.reduceToNat]
  omega

theorem eq_of_digitVal {c d : Char} (hc : c.isDigit = true) (hd : d.isDigit = true)
    (h : digitVal c = digitVal d) : c = d := by
  have := toNat_of_isDigit hc
  have := toNat_of_isDigit hd
  simp only [digitVal, Char.reduceToNat] at h
  exact Char.toNat_inj.1 (by omega)

theorem natOfDigits_cons (c : Char) (ds : List Char) :
    natOfDigits (c :: ds) = 10 ^ ds.length * digitVal c + natOfDigits ds := by
  have h : Nat.ofDigitChars 10 ds (10 * 0 + digitVal c) =
      10 ^ ds.length * (10 * 0 + digitVal c) + Nat.ofDigitChars 10 ds 0 :=
    Nat.ofDigitChars_eq_ofDigitChars_zero
  simpa [natOfDigits, Nat.ofDigitChars, digitVal] using h

theorem natOfDigits_toDigits (n : ℕ) : natOfDigits (Nat.toDigits 10 n) = n :=
  Nat.ofDigitChars_ten_toDigits

theorem natOfDigits_lt (h : ∀ c ∈ ds, c.isDigit = true) : natOfDigits ds < 10 ^ ds.length := by
  induction ds with
  | nil => simp
  | cons c ds ih =>
    have hc := digitVal_lt (h c List.mem_cons_self)
    have hds := ih fun d hd => h d (List.mem_cons_of_mem _ hd)
    have hle : 10 ^ ds.length * digitVal c ≤ 10 ^ ds.length * 9 := Nat.mul_le_mul_left _ (by omega)
    rw [natOfDigits_cons, List.length_cons, Nat.pow_succ]
    omega

/-- Runs of digits of one length that write the same number are the same. -/
theorem natOfDigits_inj {es : List Char} (hlen : ds.length = es.length)
    (hds : ∀ c ∈ ds, c.isDigit = true) (hes : ∀ c ∈ es, c.isDigit = true)
    (h : natOfDigits ds = natOfDigits es) : ds = es := by
  induction ds generalizing es with
  | nil => exact (List.length_eq_zero_iff.1 hlen.symm).symm
  | cons c ds ih =>
    obtain _ | ⟨d, es⟩ := es
    · simp at hlen
    have hlen : ds.length = es.length := by simpa using hlen
    rw [List.forall_mem_cons] at hds hes
    have hlt := natOfDigits_lt hds.2
    have hlt' := natOfDigits_lt hes.2
    rw [natOfDigits_cons, natOfDigits_cons, ← hlen] at h
    rw [← hlen] at hlt'
    have hpos : 0 < 10 ^ ds.length := Nat.pow_pos (by decide)
    -- the leading digit is the quotient, the number behind it the remainder
    have hdiv := congrArg (· / 10 ^ ds.length) h
    have hmod := congrArg (· % 10 ^ ds.length) h
    simp only [Nat.mul_add_div hpos, Nat.div_eq_of_lt hlt, Nat.div_eq_of_lt hlt', Nat.add_zero]
      at hdiv
    simp only [Nat.mul_add_mod, Nat.mod_eq_of_lt hlt, Nat.mod_eq_of_lt hlt'] at hmod
    rw [eq_of_digitVal hds.1 hes.1 hdiv, ih hlen hds.2 hes.2 hmod]

/-! ## Zeros beside digits -/

theorem natOfDigits_zeros_append (k : ℕ) (ds : List Char) :
    natOfDigits (List.replicate k '0' ++ ds) = natOfDigits ds := by
  change Nat.ofDigitChars 10 _ 0 = Nat.ofDigitChars 10 ds 0
  rw [Nat.ofDigitChars_append, Nat.ofDigitChars_replicate_zero, Nat.mul_zero]

theorem natOfDigits_append_zeros (k : ℕ) (ds : List Char) :
    natOfDigits (ds ++ List.replicate k '0') = natOfDigits ds * 10 ^ k := by
  change Nat.ofDigitChars 10 _ 0 = Nat.ofDigitChars 10 ds 0 * 10 ^ k
  rw [Nat.ofDigitChars_append, Nat.ofDigitChars_replicate_zero, Nat.mul_comm]

/-! ## Digits of all scripts -/

/-- Two sets of characters that have no range in common have no character in common. -/
theorem Ranges.has_eq_false {t t' : Ranges} {c : Char}
    (hdisjoint : ∀ r ∈ t, ∀ r' ∈ t', r.2 < r'.1 ∨ r'.2 < r.1) (h : t.has c = true) :
    t'.has c = false := by
  obtain ⟨r, hr, hlow, hhigh⟩ := (t.has_iff c).1 h
  refine Bool.eq_false_iff.2 fun h' => ?_
  obtain ⟨r', hr', hlow', hhigh'⟩ := (t'.has_iff c).1 h'
  have := hdisjoint r hr r' hr'
  omega

theorem isDecimal_of_isDigit {c : Char} (h : c.isDigit = true) : isDecimal c = true :=
  (Ranges.has_iff _ _).2 ⟨(0x30, 0x39), List.mem_cons_self, toNat_of_isDigit h⟩

theorem isBlank_of_isDecimal {c : Char} (h : isDecimal c = true) : isBlank c = false :=
  Ranges.has_eq_false (by decide) h

theorem dropBlank_of_isDecimal {c : Char} (hc : isDecimal c = true) (r : List Char) :
    dropBlank (c :: r) = c :: r := by
  simp [dropBlank, isBlank_of_isDecimal hc]

/-! ## Runs in front -/

section run

variable {p : Char → Bool} {r : List Char}

theorem span_run (h : ∀ c ∈ ds, p c = true) (hr : ∀ c ∈ r.head?, p c = false) :
    ((ds ++ r).takeWhile p, (ds ++ r).dropWhile p) = (ds, r) := by
  have hr : r.takeWhile p = [] ∧ r.dropWhile p = r := by
    cases r <;> simp_all
  simp [List.takeWhile_append_of_pos h, List.dropWhile_append_of_pos h, hr]

/-- A run of digits is taken whole when no digit follows. -/
theorem spanDigits_run (h : ∀ c ∈ ds, c.isDigit = true) (hr : ∀ c ∈ r.head?, c.isDigit = false) :
    spanDigits (ds ++ r) = (ds, r) :=
  span_run h hr

theorem spanDecimals_run (h : ∀ c ∈ ds, isDecimal c = true) (hr : ∀ c ∈ r.head?, isDecimal c = false) :
    spanDecimals (ds ++ r) = (ds, r) :=
  span_run h hr

end run

end Conform.Text
