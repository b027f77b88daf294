import Conform.Proofs.Duration.Captures
import Conform.Proofs.Decimal.Reading

/-!
# The grammar of durations

A duration is written as parts with unit letters, in a fixed order; those of the clock stand behind a
mark of their own. What is captured of a text divides it in this way. But digits of any script are
captured, and there may be a mark without a part behind it, or no part at all. The numbers are read from
ASCII digits only, and a text of three bytes or more that does not end with the mark has a part.

* `Spelling`: a duration as it is written; `Spelling.Shows`: the duration that is written;
* `component?_eq_some`, `exists_seconds_of_seconds?`: what is captured and is a number;
* `Spelling.three_le_length`, `Spelling.getLast?_chars`: a text with a part;
* `grammar_exact`: the main statement.
-/

namespace Conform.Duration

/-! ## Durations as they are written -/

/-- A numeral of at least one digit. -/
structure Figure where
  chars : List Char
  nonempty : chars ≠ []
  digits : ∀ c ∈ chars, c.isDigit = true

/-- The number that is written. -/
def Figure.value (n : Figure) : Nat := Text.natOfDigits n.chars

/-- A part with its unit, if it is there. -/
def unitChars (u : Char) : Option Figure → List Char
  | none => []
  | some n => n.chars ++ [u]

/-- The number of a part; zero if it is not there. -/
def amount (n : Option Figure) : Nat := (n.map Figure.value).getD 0

/-- A fraction with its point, if it is there. -/
def fractionChars : Option Figure → List Char
  | none => []
  | some f => '.' :: f.chars

/-- Seconds, with a fraction or without. -/
structure Seconds where
  whole : Figure
  fraction : Option Figure

namespace Seconds

/-- The characters of the seconds. -/
def chars (s : Seconds) : List Char := s.whole.chars ++ fractionChars s.fraction

/-- The number that the text of the seconds reads as. -/
def value? (s : Seconds) : Option Float := (Numeral.unsigned? false s.chars).map Numeral.toFloat

end Seconds

/-- The seconds with their unit, if they are there. -/
def secondsChars : Option Seconds → List Char
  | none => []
  | some s => s.chars ++ ['S']

/-- The parts of the clock behind their mark; nothing if none is there. -/
def clockChars (h m : Option Figure) (x : Option Seconds) : List Char :=
  if h.isSome ∨ m.isSome ∨ x.isSome then
    'T' :: (unitChars 'H' h ++ (unitChars 'M' m ++ secondsChars x))
  else []

/-- A duration as it is written. At least one part is there. -/
structure Spelling where
  years : Option Figure
  months : Option Figure
  weeks : Option Figure
  days : Option Figure
  hours : Option Figure
  minutes : Option Figure
  seconds : Option Seconds
  nonempty : years.isSome ∨ months.isSome ∨ weeks.isSome ∨ days.isSome ∨ hours.isSome ∨
    minutes.isSome ∨ seconds.isSome

namespace Spelling

/-- The characters that are written. -/
def chars (w : Spelling) : List Char :=
  'P' :: (unitChars 'Y' w.years ++ (unitChars 'M' w.months ++ (unitChars 'W' w.weeks ++
    (unitChars 'D' w.days ++ clockChars w.hours w.minutes w.seconds))))

/-- The text that is written. -/
def text (w : Spelling) : String := String.ofList w.chars

/-- Every part but the seconds is a number of 32 bits. -/
def Fits (w : Spelling) : Prop :=
  ∀ n ∈ [w.years, w.months, w.weeks, w.days, w.hours, w.minutes], amount n ≤ 2 ^ 32 - 1

/-- The duration is the one that is written. -/
structure Shows (w : Spelling) (d : Duration) : Prop where
  years : d.years.toNat = amount w.years
  months : d.months.toNat = amount w.months
  weeks : d.weeks.toNat = amount w.weeks
  days : d.days.toNat = amount w.days
  hours : d.hours.toNat = amount w.hours
  minutes : d.minutes.toNat = amount w.minutes
  seconds : w.seconds.elim (some 0) Seconds.value? = some d.seconds

end Spelling

/-! ## Parts -/

section part

variable {n : Option Figure}

theorem groupChars_figure (u : Char) (n : Option Figure) :
    groupChars u (n.map Figure.chars) = unitChars u n := by
  cases n <;> rfl

theorem digits_figure (n : Option Figure) : ∀ ds ∈ n.map Figure.chars, Digits ds := by
  rintro ds hds
  obtain ⟨n, rfl, rfl⟩ := Option.map_eq_some_iff.1 hds
  exact ⟨n.nonempty, fun c hc => Text.isDecimal_of_isDigit (n.digits c hc)⟩

/-- What is captured has a number if it is ASCII digits, and the number fits. -/
theorem component?_eq_some {c : Option (List Char)} {x : UInt32} :
    component? c = some x ↔ ∃ n : Option Figure, n.map Figure.chars = c ∧ x.toNat = amount n := by
  cases c with
  | none => simp [component?, amount, ← UInt32.toNat_inj, eq_comm]
  | some ds =>
    have hfigure : (∃ n : Option Figure, n.map Figure.chars = some ds ∧ x.toNat = amount n) ↔
        (ds ≠ [] ∧ ∀ c ∈ ds, c.isDigit = true) ∧ x.toNat = Text.natOfDigits ds := by
      constructor
      · rintro ⟨n, hn, hx⟩
        obtain ⟨n, rfl, rfl⟩ := Option.map_eq_some_iff.1 hn
        exact ⟨⟨n.nonempty, n.digits⟩, hx⟩
      · rintro ⟨⟨hne, hds⟩, hx⟩
        exact ⟨some ⟨ds, hne, hds⟩, rfl, hx⟩
    have hx := x.toNat_lt
    rw [hfigure, component?]
    split
    · rename_i h
      simp only [reduceCtorEq, false_iff]
      rintro ⟨⟨hne, hds⟩, -⟩
      rw [List.isEmpty_eq_false_iff.2 hne, List.all_eq_true.2 hds] at h
      cases h
    · rename_i h
      have hds : ds ≠ [] ∧ ∀ c ∈ ds, c.isDigit = true := by simpa using h
      rw [and_iff_right hds]
      split
      · rename_i hlt
        rw [Option.some.injEq, ← UInt32.toNat_inj, UInt32.toNat_ofNat_of_lt' hlt, eq_comm]
      · simp only [reduceCtorEq, false_iff]
        omega

/-- The number of a part that is written is read if it fits. -/
theorem component?_chars {x : UInt32} : component? (n.map Figure.chars) = some x ↔ x.toNat = amount n := by
  have hinj : Function.Injective Figure.chars := by
    rintro ⟨cs, _, _⟩ ⟨cs', _, _⟩ rfl
    rfl
  constructor
  · intro h
    obtain ⟨n', hn, hx⟩ := component?_eq_some.1 h
    rwa [Option.map_injective hinj hn] at hx
  · intro hx
    exact component?_eq_some.2 ⟨n, rfl, hx⟩

end part

/-! ## Seconds -/

namespace Seconds

variable (x : Seconds)

/-- The seconds as a numeral. -/
def numeral : Numeral := ⟨false, x.whole.chars, (x.fraction.map Figure.chars).getD [], 0⟩

theorem unsigned?_chars : Numeral.unsigned? false x.chars = some x.numeral := by
  obtain ⟨whole, fraction⟩ := x
  cases fraction with
  | none =>
    simpa [chars, fractionChars, numeral] using Numeral.unsigned?_digits false whole.nonempty whole.digits
  | some f =>
    have hwhole := Text.spanDigits_run whole.digits (r := '.' :: f.chars) (by simp)
    have hfraction := Text.spanDigits_run f.digits (r := []) (by simp)
    rw [List.append_nil] at hfraction
    simp [Numeral.unsigned?, chars, fractionChars, numeral, hwhole, hfraction, whole.nonempty,
      Numeral.exponent?]

theorem value?_eq : x.value? = some x.numeral.toFloat := by
  rw [value?, x.unsigned?_chars, Option.map_some]

end Seconds

theorem elim_value? (x : Option Seconds) : x.elim (some 0) Seconds.value? =
    some (((x.map Seconds.numeral).map Numeral.toFloat).getD 0) := by
  cases x with
  | none => rfl
  | some x => exact x.value?_eq

theorem seconds?_chars (x : Option Seconds) :
    seconds? (x.map Seconds.chars) = x.elim (some 0) Seconds.value? := by
  cases x <;> rfl

theorem groupChars_seconds (x : Option Seconds) :
    groupChars 'S' (x.map Seconds.chars) = secondsChars x := by
  cases x <;> rfl

theorem pointed_seconds (x : Option Seconds) : ∀ ds ∈ x.map Seconds.chars, Pointed ds := by
  rintro ds hds
  obtain ⟨⟨whole, fraction⟩, rfl, rfl⟩ := Option.map_eq_some_iff.1 hds
  have hwhole := digits_figure (some whole) _ rfl
  cases fraction with
  | none => exact Or.inl (by simpa [Seconds.chars, fractionChars] using hwhole)
  | some f => exact Or.inr ⟨_, _, hwhole, digits_figure (some f) _ rfl, rfl⟩

/-- A digit of a numeral is an ASCII digit. -/
theorem isDigit_of_unsigned? {cs : List Char} {n : Numeral} (h : Numeral.unsigned? false cs = some n)
    {c : Char} (hc : c ∈ cs) (hdecimal : Text.isDecimal c = true) : c.isDigit = true := by
  by_contra hdigit
  refine Numeral.notMem_of_unsigned? (c := c) ⟨by simpa using hdigit, ?_⟩ h hc
  intro hmem
  simp only [List.mem_cons, List.not_mem_nil, or_false] at hmem
  rcases hmem with rfl | rfl | rfl | rfl | rfl <;> cases hdecimal

/-- What is captured of the seconds and has a number is written in ASCII digits. -/
theorem exists_seconds_of_seconds? {c : Option (List Char)} {x : Float} (h : seconds? c = some x)
    (hc : ∀ d ∈ c, Pointed d) : ∃ z : Option Seconds, z.map Seconds.chars = c := by
  cases c with
  | none => exact ⟨none, rfl⟩
  | some cs =>
    obtain ⟨n, hn, -⟩ := Option.map_eq_some_iff.1 h
    have hdigit := @isDigit_of_unsigned? cs n hn
    obtain ⟨hne, hcs⟩ | ⟨ds, es, ⟨hds, hds'⟩, ⟨hes, hes'⟩, rfl⟩ := hc cs rfl
    · exact ⟨some ⟨⟨cs, hne, fun c hc => hdigit hc (hcs c hc)⟩, none⟩,
        by simp [Seconds.chars, fractionChars]⟩
    · have hwhole : ∀ c ∈ ds, c.isDigit = true := fun c hc => hdigit (by simp [hc]) (hds' c hc)
      have hfraction : ∀ c ∈ es, c.isDigit = true := fun c hc => hdigit (by simp [hc]) (hes' c hc)
      exact ⟨some ⟨⟨ds, hds, hwhole⟩, some ⟨es, hes, hfraction⟩⟩, rfl⟩

/-- The parts of the clock that are written divide the text. -/
theorem clockDivides_chars (h m : Option Figure) (x : Option Seconds) :
    ClockDivides (h.map Figure.chars) (m.map Figure.chars) (x.map Seconds.chars) (clockChars h m x) := by
  unfold ClockDivides
  rw [groupChars_figure, groupChars_figure, groupChars_seconds, clockChars]
  split
  · exact Or.inr rfl
  · rename_i hnone
    obtain ⟨rfl, rfl, rfl⟩ : h = none ∧ m = none ∧ x = none := by simpa using hnone
    exact Or.inl ⟨rfl, rfl, rfl, rfl⟩

/-- What divides the text behind the other parts was written, unless the mark alone is there. -/
theorem eq_clockChars {h m : Option Figure} {x : Option Seconds} {cs : List Char}
    (hclock : ClockDivides (h.map Figure.chars) (m.map Figure.chars) (x.map Seconds.chars) cs)
    (hmark : cs.getLast? ≠ some 'T') : cs = clockChars h m x := by
  simp only [ClockDivides, groupChars_figure, groupChars_seconds, Option.map_eq_none_iff] at hclock
  obtain ⟨rfl, rfl, rfl, rfl⟩ | rfl := hclock
  · rfl
  · rw [clockChars, if_pos]
    by_contra hnone
    obtain ⟨rfl, rfl, rfl⟩ : h = none ∧ m = none ∧ x = none := by simpa using hnone
    exact hmark rfl

/-! ## The ends of a text -/

theorem length_le_utf8ByteSize (s : String) : s.toList.length ≤ s.utf8ByteSize := by
  have hlen : ∀ cs : List Char, cs.length ≤ String.utf8Len cs := by
    intro cs
    induction cs with
    | nil => exact le_rfl
    | cons c cs ih =>
      have := c.utf8Size_pos
      rw [List.length_cons, String.utf8Len_cons]
      omega
  have hsize := String.utf8ByteSize_ofList s.toList
  rw [String.ofList_toList] at hsize
  rw [hsize]
  exact hlen _

theorem length_unitChars {u : Char} {n : Option Figure} (hn : n.isSome) :
    2 ≤ (unitChars u n).length := by
  obtain ⟨n, rfl⟩ := Option.isSome_iff_exists.1 hn
  have := List.length_pos_iff.2 n.nonempty
  rw [unitChars, List.length_append, List.length_singleton]
  omega

theorem getLast?_unitChars (u : Char) (n : Option Figure) :
    (unitChars u n).getLast? = n.map fun _ => u := by
  cases n with
  | none => rfl
  | some n => simp [unitChars]

theorem getLast?_secondsChars (x : Option Seconds) :
    (secondsChars x).getLast? = x.map fun _ => 'S' := by
  cases x with
  | none => rfl
  | some x => simp [secondsChars]

theorem getLast?_append_ne {c : Char} {as bs : List Char} (ha : as.getLast? ≠ some c)
    (hb : bs.getLast? ≠ some c) : (as ++ bs).getLast? ≠ some c := by
  rw [List.getLast?_append]
  cases hlast : bs.getLast? with
  | none => exact ha
  | some d => rwa [hlast] at hb

theorem length_clockChars {h m : Option Figure} {x : Option Seconds}
    (hsome : h.isSome ∨ m.isSome ∨ x.isSome) : 2 ≤ (clockChars h m x).length := by
  have hseconds : ∀ x : Option Seconds, x.isSome → 1 ≤ (secondsChars x).length := by
    intro x hx
    obtain ⟨x, rfl⟩ := Option.isSome_iff_exists.1 hx
    simp [secondsChars]
  rw [clockChars, if_pos hsome, List.length_cons, List.length_append, List.length_append]
  rcases hsome with h | h | h
  · have := length_unitChars (u := 'H') h
    omega
  · have := length_unitChars (u := 'M') h
    omega
  · have := hseconds x h
    omega

theorem getLast?_clockChars (h m : Option Figure) (x : Option Seconds) :
    (clockChars h m x).getLast? ≠ some 'T' := by
  rw [clockChars]
  split
  · rename_i hsome
    rw [List.getLast?_cons, List.getLast?_append, List.getLast?_append, getLast?_unitChars,
      getLast?_unitChars, getLast?_secondsChars]
    cases x <;> cases m <;> cases h <;> simp_all
  · simp

/-! ## The whole text -/

namespace Spelling

variable (w : Spelling)

/-- There is a part behind the first letter. -/
theorem three_le_length : 3 ≤ w.chars.length := by
  have hparts := w.nonempty
  simp only [chars, List.length_cons, List.length_append]
  rcases hparts with h | h | h | h | h
  · have := length_unitChars (u := 'Y') h
    omega
  · have := length_unitChars (u := 'M') h
    omega
  · have := length_unitChars (u := 'W') h
    omega
  · have := length_unitChars (u := 'D') h
    omega
  · have := length_clockChars h
    omega

/-- The last character is the letter of the last part, and not the mark of the clock. -/
theorem getLast?_chars : w.chars.getLast? ≠ some 'T' := by
  have hunit : ∀ u, u ≠ 'T' → ∀ n, (unitChars u n).getLast? ≠ some 'T' := by
    intro u hu n
    rw [getLast?_unitChars]
    cases n <;> simp [hu]
  have hfront : ['P'].getLast? ≠ some 'T' := by decide
  exact getLast?_append_ne hfront
    (getLast?_append_ne (hunit 'Y' (by decide) _) (getLast?_append_ne (hunit 'M' (by decide) _)
      (getLast?_append_ne (hunit 'W' (by decide) _) (getLast?_append_ne (hunit 'D' (by decide) _)
        (getLast?_clockChars _ _ _)))))

theorem captures?_chars : captures? w.chars = some ⟨w.years.map Figure.chars, w.months.map Figure.chars,
    w.weeks.map Figure.chars, w.days.map Figure.chars, w.hours.map Figure.chars,
    w.minutes.map Figure.chars, w.seconds.map Seconds.chars⟩ := by
  refine captures?_eq_some.2 ⟨?_, pointed_seconds _, _, clockDivides_chars _ _ _, ?_⟩
  · simp only [List.forall_mem_cons]
    exact ⟨digits_figure _, digits_figure _, digits_figure _, digits_figure _, digits_figure _,
      digits_figure _, by simp⟩
  · simp only [groupChars_figure]
    rfl

/-- A duration that is written is read. -/
theorem parse?_text {d : Duration} : parse? w.text = some d ↔ w.Shows d := by
  have hpart : ¬ (w.text.utf8ByteSize < 3 ∨ w.text.toList.getLast? = some 'T') := by
    have hsize := length_le_utf8ByteSize w.text
    rw [text, String.toList_ofList] at *
    exact not_or.2 ⟨not_lt.2 (w.three_le_length.trans hsize), w.getLast?_chars⟩
  rw [parse?, if_neg hpart, text, String.toList_ofList, captures?_chars]
  simp only [Option.bind_eq_bind, Option.bind_some, Option.bind_eq_some_iff, component?_chars,
    seconds?_chars, Option.some.injEq, pure]
  constructor
  · rintro ⟨y, hy, mo, hmo, k, hk, d', hd, h, hh, mi, hmi, x, hx, rfl⟩
    exact ⟨hy, hmo, hk, hd, hh, hmi, hx⟩
  · rintro ⟨hy, hmo, hk, hd, hh, hmi, hx⟩
    exact ⟨_, hy, _, hmo, _, hk, _, hd, _, hh, _, hmi, _, hx, rfl⟩

theorem exists_shows : (∃ d, w.Shows d) ↔ w.Fits := by
  have hword : ∀ n, (∃ x : UInt32, x.toNat = amount n) ↔ amount n ≤ 2 ^ 32 - 1 := by
    intro n
    constructor
    · rintro ⟨x, hx⟩
      have := x.toNat_lt
      omega
    · intro hn
      exact ⟨UInt32.ofNat (amount n), UInt32.toNat_ofNat_of_lt' (by simp only [UInt32.size]; omega)⟩
  simp only [Fits, List.forall_mem_cons, ← hword]
  constructor
  · rintro ⟨d, h⟩
    exact ⟨⟨_, h.years⟩, ⟨_, h.months⟩, ⟨_, h.weeks⟩, ⟨_, h.days⟩, ⟨_, h.hours⟩, ⟨_, h.minutes⟩, by simp⟩
  · rintro ⟨⟨y, hy⟩, ⟨mo, hmo⟩, ⟨k, hk⟩, ⟨d, hd⟩, ⟨h, hh⟩, ⟨mi, hmi⟩, -⟩
    exact ⟨⟨y, mo, k, d, h, mi, _⟩, hy, hmo, hk, hd, hh, hmi, elim_value? w.seconds⟩

end Spelling

/-- What is read as a duration was written as one. -/
theorem exists_spelling {s : String} {d : Duration} (hd : parse? s = some d) :
    ∃ w : Spelling, w.text = s := by
  unfold parse? at hd
  split at hd
  · cases hd
  rename_i hpart
  obtain ⟨hsize, hlast⟩ := not_or.1 hpart
  simp only [Option.bind_eq_bind, Option.bind_eq_some_iff] at hd
  obtain ⟨c, hc, y', hy, mo', hmo, k', hk, d', hd', h', hh, mi', hmi, x', hx, -⟩ := hd
  obtain ⟨-, hpointed, clock, hclock, hs⟩ := captures?_eq_some.1 hc
  obtain ⟨y, hy, -⟩ := component?_eq_some.1 hy
  obtain ⟨mo, hmo, -⟩ := component?_eq_some.1 hmo
  obtain ⟨k, hk, -⟩ := component?_eq_some.1 hk
  obtain ⟨d', hd', -⟩ := component?_eq_some.1 hd'
  obtain ⟨h, hh, -⟩ := component?_eq_some.1 hh
  obtain ⟨mi, hmi, -⟩ := component?_eq_some.1 hmi
  obtain ⟨x, hx⟩ := exists_seconds_of_seconds? hx hpointed
  simp only [← hy, ← hmo, ← hk, ← hd', ← hh, ← hmi, ← hx, groupChars_figure] at hs hclock
  obtain rfl : clock = clockChars h mi x := by
    refine eq_clockChars hclock fun hmark => hlast ?_
    rw [hs]
    simp [List.getLast?_cons, List.getLast?_append, hmark]
  have hsome : y.isSome ∨ mo.isSome ∨ k.isSome ∨ d'.isSome ∨ h.isSome ∨ mi.isSome ∨ x.isSome := by
    by_contra hnone
    obtain ⟨rfl, rfl, rfl, rfl, rfl, rfl, rfl⟩ : y = none ∧ mo = none ∧ k = none ∧ d' = none ∧
      h = none ∧ mi = none ∧ x = none := by simpa using hnone
    obtain rfl : s = "P" := by
      rw [← String.toList_inj, hs]
      rfl
    exact hsize (by decide)
  refine ⟨⟨y, mo, k, d', h, mi, x, hsome⟩, ?_⟩
  rw [← String.toList_inj, hs, Spelling.text, String.toList_ofList]
  rfl

/-! ## Main statement -/

/-- **The grammar of durations.** A text is read as a duration exactly when it is written as one: a `P`,
then years, months, weeks and days, each left out or a run of digits with its letter, then nothing or a
`T` with at least one of hours, minutes and seconds, and altogether at least one part. Every part but the
seconds has to be a number of 32 bits. What is read is what is written, a part left out being zero. -/
theorem grammar_exact (s : String) :
    (∀ d, parse? s = some d ↔ ∃ w : Spelling, w.text = s ∧ w.Shows d) ∧
    ((∃ d, parse? s = some d) ↔ ∃ w : Spelling, w.text = s ∧ w.Fits) := by
  have hread : ∀ d, parse? s = some d ↔ ∃ w : Spelling, w.text = s ∧ w.Shows d := by
    intro d
    constructor
    · intro hd
      obtain ⟨w, rfl⟩ := exists_spelling hd
      exact ⟨w, rfl, w.parse?_text.1 hd⟩
    · rintro ⟨w, rfl, hw⟩
      exact w.parse?_text.2 hw
  refine ⟨hread, ?_⟩
  constructor
  · rintro ⟨d, hd⟩
    obtain ⟨w, hw, hs⟩ := (hread d).1 hd
    exact ⟨w, hw, w.exists_shows.1 ⟨d, hs⟩⟩
  · rintro ⟨w, rfl, hw⟩
    obtain ⟨d, hd⟩ := w.exists_shows.2 hw
    exact ⟨d, w.parse?_text.2 hd⟩

end Conform.Duration
