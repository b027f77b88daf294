import Conform.Proofs.Decimal.Shortest
import Conform.Proofs.Duration.Grammar

/-!
# Durations are read back from their texts

The text of a duration leaves out every component that is zero, and the mark of the clock with them; only
the zero duration is written with a component that is zero. So it is a spelling in the grammar, and what
is spelled is the duration. The seconds are written as the shortest decimal that is read as the same
number, without an exponent: zeros stand in front of the digits or behind them where the point is not
among them.

* `figure?`: a component as it is written, or not; `exists_seconds`: the seconds as they are written;
* `exists_spelling_text`: the text is a spelling of the duration;
* `text_reads_back`: the main statement.
-/

namespace Conform

namespace Duration

open Float.Model

/-! ## Components -/

/-- The numeral of a whole number. -/
def Figure.ofNat (n : ℕ) : Figure :=
  ⟨Nat.toDigits 10 n, Nat.toDigits_ne_nil, fun _ => Nat.isDigit_of_mem_toDigits (by decide) (by decide)⟩

/-- A component that is written if it is not zero. -/
def figure? (n : UInt32) : Option Figure := if 0 < n then some (.ofNat n.toNat) else none

theorem amount_figure? (n : UInt32) : amount (figure? n) = n.toNat := by
  rw [figure?]
  split
  · exact Text.natOfDigits_toDigits n.toNat
  · rename_i h
    have : ¬ 0 < n.toNat := h
    change 0 = n.toNat
    omega

theorem toList_partText (n : UInt32) (u : Char) :
    (partText n (String.singleton u)).toList = unitChars u (figure? n) := by
  rw [partText, figure?]
  split
  · simp [unitChars, Figure.ofNat]
  · rfl

/-! ## Seconds -/

theorem isDigit_of_mem_replicate {k : ℕ} : ∀ c ∈ List.replicate k '0', c.isDigit = true := by
  intro c hc
  rw [List.eq_of_mem_replicate hc]
  rfl

section plain

variable {ds : List Char} (hne : ds ≠ []) (hds : ∀ c ∈ ds, c.isDigit = true)
include hne hds

/-- All digits are behind the point. -/
theorem exists_behind (k : ℕ) : ∃ x : Seconds, x.chars = '0' :: '.' :: (List.replicate k '0' ++ ds) ∧
    x.numeral.value = Text.natOfDigits ds * 10 ^ (-k - ds.length : ℤ) := by
  have hfraction : ∀ c ∈ List.replicate k '0' ++ ds, c.isDigit = true := fun c hc =>
    (List.mem_append.1 hc).elim (isDigit_of_mem_replicate c) (hds c)
  refine ⟨⟨⟨['0'], by simp, by simp⟩, some ⟨_, by simp [hne], hfraction⟩⟩, rfl, ?_⟩
  have hdigits := Text.natOfDigits_zeros_append (k + 1) ds
  have hexp : (0 : ℤ) - (List.replicate k '0' ++ ds).length = -k - ds.length := by
    rw [List.length_append, List.length_replicate]
    omega
  rw [← hdigits, ← hexp]
  rfl

/-- All digits are in front of the point, which is left out. -/
theorem exists_front (k : ℕ) : ∃ x : Seconds, x.chars = ds ++ List.replicate k '0' ∧
    x.numeral.value = Text.natOfDigits ds * 10 ^ (k : ℤ) := by
  have hwhole : ∀ c ∈ ds ++ List.replicate k '0', c.isDigit = true := fun c hc =>
    (List.mem_append.1 hc).elim (hds c) (isDigit_of_mem_replicate c)
  refine ⟨⟨⟨_, by simp [hne], hwhole⟩, none⟩, by simp [Seconds.chars, fractionChars], ?_⟩
  have hdigits := Text.natOfDigits_append_zeros k ds
  simp [Numeral.value, Seconds.numeral, hdigits]

/-- The point is among the digits. -/
theorem exists_among {k : ℕ} (hk : 0 < k) (hlen : k < ds.length) :
    ∃ x : Seconds, x.chars = ds.take k ++ '.' :: ds.drop k ∧
      x.numeral.value = Text.natOfDigits ds * 10 ^ (k - ds.length : ℤ) := by
  have hexp : (0 : ℤ) - (ds.drop k).length = k - ds.length := by
    rw [List.length_drop]
    omega
  refine ⟨⟨⟨ds.take k, ?_, fun c hc => hds c (List.mem_of_mem_take hc)⟩,
    some ⟨ds.drop k, ?_, fun c hc => hds c (List.mem_of_mem_drop hc)⟩⟩, rfl, ?_⟩
  · simpa [hne] using hk.ne'
  · simpa using hlen
  · rw [← hexp]
    simp [Numeral.value, Seconds.numeral]

/-- Digits without an exponent are the text of seconds. -/
theorem exists_writePlain (lead : ℤ) :
    ∃ x : Seconds, (secondsLayout.writePlain ds lead).toList = x.chars ∧
      x.numeral.value = Text.natOfDigits ds * 10 ^ (lead + 1 - ds.length) := by
  rw [Layout.writePlain]
  split
  · obtain ⟨x, hchars, hvalue⟩ := exists_behind hne hds (-lead - 1).toNat
    refine ⟨x, ?_, ?_⟩
    · simp [hchars, Layout.zeros]
    · rw [hvalue, show -((-lead - 1).toNat : ℤ) = lead + 1 by omega]
  dsimp only
  split
  · obtain ⟨x, hchars, hvalue⟩ := exists_front hne hds (lead.toNat + 1 - ds.length)
    refine ⟨x, ?_, ?_⟩
    · simp [hchars, Layout.zeros, secondsLayout]
    · rw [hvalue, show ((lead.toNat + 1 - ds.length : ℕ) : ℤ) = lead + 1 - ds.length by omega]
  · obtain ⟨x, hchars, hvalue⟩ := exists_among hne hds (k := lead.toNat + 1) (by omega) (by omega)
    refine ⟨x, ?_, ?_⟩
    · simp [hchars]
    · rw [hvalue, show ((lead.toNat + 1 : ℕ) : ℤ) = lead + 1 by omega]

end plain

theorem isFinite_cases {x : Float} (h : x.isFinite = true) : x.isNaN = false ∧ x.isInf = false := by
  change x.toModel.unpack.isFinite = true at h
  change x.toModel.unpack.isNaN = false ∧ x.toModel.unpack.isInf = false
  generalize x.toModel.unpack = u at h
  cases u with
  | notANumber => cases h
  | infinity s => cases h
  | zero s => exact ⟨rfl, rfl⟩
  | finite s m e hm => exact ⟨rfl, rfl⟩

/-- The text of positive seconds is a numeral that reads as the seconds. -/
theorem exists_seconds {x : Float} (hpos : 0 < x) (hx : x.isFinite = true) :
    ∃ z : Seconds, (secondsLayout.text x).toList = z.chars ∧ z.value? = some x := by
  obtain ⟨hnan, hinf⟩ := isFinite_cases hx
  obtain ⟨hneg, hcanonical, -⟩ := Binary.toModel_of_pos hpos hx
  have hrounds := Decimal.rounds_shortest hpos hx
  have hvpos := Binary.pos_of_within hcanonical.pos (Decimal.within_shortest hcanonical)
  generalize hd : Decimal.shortest _ _ = d at hrounds hvpos
  obtain ⟨z, hchars, hvalue⟩ := exists_writePlain
    (Nat.toDigits_ne_nil : Nat.toDigits 10 d.digits ≠ [])
    (fun _ => Nat.isDigit_of_mem_toDigits (by decide) (by decide)) d.lead
  have hz : z.numeral.value = d.value := by
    rw [hvalue, Text.natOfDigits_toDigits, Decimal.value, Decimal.lead, Decimal.width]
    congr 2
    omega
  refine ⟨z, ?_, ?_⟩
  · rw [← hchars, Layout.text, hnan, hinf]
    simp only [hneg, hd, if_neg hcanonical.pos.ne', Layout.write]
    simp [secondsLayout]
  · rw [z.value?_eq]
    rw [← hz] at hrounds hvpos
    exact congrArg some ((Numeral.rounds_toFloat rfl hvpos).unique hrounds)

/-! ## The whole text -/

/-- The seconds are what a text can say: zero, or positive and finite. -/
def Writable (d : Duration) : Prop := d.seconds = 0 ∨ 0 < d.seconds ∧ d.seconds.isFinite = true

theorem toList_text (d : Duration) : d.text.toList = 'P' :: (unitChars 'Y' (figure? d.years) ++
    (unitChars 'M' (figure? d.months) ++ (unitChars 'W' (figure? d.weeks) ++
    (unitChars 'D' (figure? d.days) ++ (d.clockText.toList ++
    (if d.same zero then "T0S" else "").toList))))) := by
  simp only [text, String.toList_append, List.append_assoc]
  simp only [← toList_partText]
  rfl

theorem isSome_figure? (n : UInt32) : (figure? n).isSome ↔ 0 < n := by
  rw [figure?]
  split <;> simp_all

/-- The seconds as they are written, if they are. -/
theorem exists_seconds? {d : Duration} (h : d.Writable) : ∃ z : Option Seconds,
    (z.isSome ↔ 0 < d.seconds) ∧ z.elim (some 0) Seconds.value? = some d.seconds ∧
    (if 0 < d.seconds then secondsLayout.text d.seconds ++ "S" else "").toList = secondsChars z := by
  rcases h with hzero | ⟨hpos, hfinite⟩
  · have hnot : ¬ (0 : Float) < 0 := by decide
    rw [hzero]
    exact ⟨none, by simp [hnot], rfl, by rw [if_neg hnot]; rfl⟩
  · obtain ⟨z, hchars, hvalue⟩ := exists_seconds hpos hfinite
    refine ⟨some z, by simp [hpos], hvalue, ?_⟩
    rw [if_pos hpos, String.toList_append, hchars]
    rfl

theorem beq_zero_of_pos {x : Float} (h : 0 < x) : (x == 0) = false := by
  have hlt := Binary.pos_iff.1 h
  change (x.toModel.unpack.compare (.zero .positive) == some .eq) = false
  generalize x.toModel.unpack = u at hlt
  cases u with
  | notANumber => rfl
  | zero s => cases hlt
  | infinity s => cases s <;> rfl
  | finite s m e hm => cases s <;> rfl

/-- The zero duration has no component that is written. -/
theorem eq_zero_iff {d : Duration} (h : d.Writable) : d = zero ↔ ¬ (0 < d.years ∨ 0 < d.months ∨
    0 < d.weeks ∨ 0 < d.days ∨ 0 < d.hours ∨ 0 < d.minutes ∨ 0 < d.seconds) := by
  have hword : ∀ n : UInt32, ¬ 0 < n → n = 0 := by
    intro n hn
    exact UInt32.le_antisymm (UInt32.not_lt.1 hn) (UInt32.zero_le)
  constructor
  · rintro rfl
    decide
  · intro hnot
    obtain ⟨years, months, weeks, days, hours, minutes, seconds⟩ := d
    simp only [not_or] at hnot
    obtain ⟨hy, hmo, hw, hd, hh, hmi, hs⟩ := hnot
    have hseconds : seconds = 0 := h.resolve_right fun hpos => hs hpos.1
    rw [hword _ hy, hword _ hmo, hword _ hw, hword _ hd, hword _ hh, hword _ hmi, hseconds]
    rfl

theorem eq_zero_of_same {d : Duration} (h : d.Writable) (hsame : d.same zero = true) : d = zero := by
  obtain ⟨years, months, weeks, days, hours, minutes, seconds⟩ := d
  simp only [same, Bool.and_eq_true, beq_iff_eq, and_assoc] at hsame
  obtain ⟨rfl, rfl, rfl, rfl, rfl, rfl, hseconds⟩ := hsame
  rcases h with h | ⟨hpos, -⟩
  · obtain rfl : seconds = 0 := h
    rfl
  · have hne : (seconds == zero.seconds) = false := beq_zero_of_pos hpos
    rw [hne] at hseconds
    cases hseconds

/-- The text of a duration that is not zero has the components that are not zero. -/
theorem exists_spelling_of_ne {d : Duration} (h : d.Writable) (hne : d ≠ zero) :
    ∃ w : Spelling, w.text = d.text ∧ w.Shows d := by
  obtain ⟨z, hsome, hvalue, hchars⟩ := exists_seconds? h
  have hnonempty : (figure? d.years).isSome ∨ (figure? d.months).isSome ∨ (figure? d.weeks).isSome ∨
      (figure? d.days).isSome ∨ (figure? d.hours).isSome ∨ (figure? d.minutes).isSome ∨ z.isSome := by
    simp only [isSome_figure?, hsome]
    exact not_not.1 (mt (eq_zero_iff h).2 hne)
  have hclock : d.clockText.toList = clockChars (figure? d.hours) (figure? d.minutes) z := by
    rw [clockText, clockChars]
    simp only [isSome_figure?, hsome]
    split
    · rw [← hchars, ← toList_partText, ← toList_partText]
      simp only [String.toList_append, List.append_assoc]
      rfl
    · rfl
  have hsame : d.same zero = false := by simpa using mt (eq_zero_of_same h) hne
  refine ⟨⟨figure? d.years, figure? d.months, figure? d.weeks, figure? d.days, figure? d.hours,
    figure? d.minutes, z, hnonempty⟩, ?_, ?_⟩
  · refine String.toList_inj.1 ?_
    rw [Spelling.text, Spelling.chars, String.toList_ofList, toList_text, hclock, hsame]
    simp
  · constructor <;> simp only [amount_figure?]
    exact hvalue

/-- The text of a duration is a spelling of it. -/
theorem exists_spelling_text {d : Duration} (h : d.Writable) :
    ∃ w : Spelling, w.text = d.text ∧ w.Shows d := by
  by_cases hzero : d = zero
  · -- zero seconds are written, so that there is a component
    rw [hzero]
    exact ⟨⟨none, none, none, none, none, none, some ⟨.ofNat 0, none⟩, by simp⟩, rfl,
      rfl, rfl, rfl, rfl, rfl, rfl, rfl⟩
  · exact exists_spelling_of_ne h hzero

/-- **Durations are read back from their texts.** The components before the seconds are arbitrary; the
seconds are zero, or positive and finite. -/
theorem text_reads_back (d : Duration)
    (h : d.seconds = 0 ∨ 0 < d.seconds ∧ d.seconds.isFinite = true) : parse? d.text = some d := by
  obtain ⟨w, htext, hshows⟩ := exists_spelling_text h
  rw [← htext]
  exact w.parse?_text.2 hshows

/-- Months and minutes both, parts left out on both sides of the clock, and seconds with 17 digits. -/
theorem text_reads_back_mixed :
    let d : Duration := ⟨4294967295, 2, 0, 4, 0, 6, 0.30000000000000004⟩
    (0 < d.seconds ∧ d.seconds.isFinite = true) ∧ parse? d.text = some d :=
  ⟨⟨by decide +kernel, by decide +kernel⟩,
    text_reads_back _ (Or.inr ⟨by decide +kernel, by decide +kernel⟩)⟩

example : (⟨4294967295, 2, 0, 4, 0, 6, 0.30000000000000004⟩ : Duration).text =
    "P4294967295Y2M4DT6M0.30000000000000004S" := by decide +kernel

end Duration

end Conform
