import Conform.Coerce
import Conform.Proofs.Calendar.Instant

/-!
# Days

A text reads as a date exactly when it is a day at full width that the Gregorian calendar has. Such a
text reads as a date with a time too, as midnight of the same day: no layout takes it, since all of them
need an hour, and the date is tried last.

* `Gregorian`: the days that there are;
* `Day`: a day as it is written; `Day.Shows`: the date that is written;
* `Day.zoned?_chars`, `Day.loose?_chars`: no layout takes a day alone;
* `date_exact`: the main statement.
-/

namespace Conform

/-! ## The calendar -/

/-- There is such a day. Every fourth year is a leap year; of the full hundreds only every fourth. -/
def Gregorian (y m d : Nat) : Prop :=
  1 ≤ d ∧ (m ∈ [1, 3, 5, 7, 8, 10, 12] ∧ d ≤ 31 ∨ m ∈ [4, 6, 9, 11] ∧ d ≤ 30 ∨ m = 2 ∧ d ≤ 28 ∨
    m = 2 ∧ d = 29 ∧ 4 ∣ y ∧ (100 ∣ y → 400 ∣ y))

theorem leapYear_iff (y : Nat) : leapYear y = true ↔ 4 ∣ y ∧ (100 ∣ y → 400 ∣ y) := by
  simp only [leapYear, Bool.and_eq_true, Bool.or_eq_true, beq_iff_eq, bne_iff_ne]
  omega

theorem gregorian_iff (y m d : Nat) : Gregorian y m d ↔ 1 ≤ d ∧ d ≤ daysIn y m := by
  simp only [Gregorian, daysIn, List.mem_cons, List.not_mem_nil, or_false, ← leapYear_iff]
  split
  · cases leapYear y <;> simp <;> omega
  · split
    · omega
    · split <;> omega

/-! ## Days as they are written -/

/-- A day at full width. -/
structure Day where
  year : Run 4
  month : Run 2
  day : Run 2

namespace Day

/-- The characters that are written. -/
def chars (w : Day) : List Char := w.year.chars ++ '-' :: (w.month.chars ++ '-' :: w.day.chars)

/-- The text that is written. -/
def text (w : Day) : String := String.ofList w.chars

/-- There is such a day. -/
def Real (w : Day) : Prop := Gregorian w.year.value w.month.value w.day.value

/-- The date is the one that is written. -/
structure Shows (w : Day) (d : Date) : Prop where
  year : d.year = w.year.value
  month : d.month = w.month.value
  day : d.day = w.day.value

variable (w : Day)

theorem exists_shows : (∃ d, w.Shows d) ↔ w.Real := by
  have hyear := w.year.value_lt
  rw [Real, gregorian_iff, ← DateTime.exists_dateOf? (by omega)]
  simp only [Date.of?_eq_some]
  constructor
  · rintro ⟨d, hy, hm, hd⟩
    exact ⟨d, hy, hm, hd⟩
  · rintro ⟨d, hy, hm, hd⟩
    exact ⟨d, hy, hm, hd⟩

theorem front?_chars : Date.front? w.chars = some ((w.year.value : Int), w.month.value, w.day.value, []) := by
  have hday := w.day.digits?_chars (by decide) []
  rw [List.append_nil] at hday
  simp only [chars, Date.front?, Option.bind_eq_bind, Option.bind_some,
    w.year.digits?_chars (by decide), w.month.digits?_chars (by decide), hday, Date.char?, if_true,
    pure]

theorem parse?_text {d : Date} : Date.parse? w.text = some d ↔ w.Shows d := by
  rw [Date.parse?_eq, text, String.toList_ofList, w.front?_chars]
  simp only [Option.bind_some, List.isEmpty_nil, if_true, Date.of?_eq_some]
  constructor
  · rintro ⟨hy, hm, hd⟩
    exact ⟨hy, hm, hd⟩
  · rintro ⟨hy, hm, hd⟩
    exact ⟨hy, hm, hd⟩

/-- A text that reads as a date is a day at full width. -/
theorem exists_shown {s : String} {d : Date} (h : Date.parse? s = some d) :
    ∃ w : Day, w.text = s ∧ w.Shows d := by
  obtain ⟨hrange, hs⟩ := Date.parse?_eq_some.1 h
  obtain ⟨n, hn⟩ := Int.eq_ofNat_of_zero_le hrange.1
  have hlt : n < 10 ^ 4 := by omega
  have hrun (w k : Nat) (hw : 0 < w) (hk : k < 10 ^ w) :
      ∃ x : Run w, x.chars = (Date.pad w k).toList ∧ x.value = k := by
    have hwidth := Date.length_pad hw hk
    have hdigits := @Date.isDigit_of_mem_pad w k
    have hvalue := @Date.natOfDigits_pad w k
    generalize (Date.pad w k).toList = cs at hwidth hdigits hvalue ⊢
    exact ⟨⟨cs, hwidth, hdigits⟩, rfl, hvalue⟩
  obtain ⟨year, hy, hyv⟩ := hrun 4 n (by decide) hlt
  obtain ⟨month, hm, hmv⟩ := hrun 2 d.month (by decide) d.month_lt
  obtain ⟨day, hd, hdv⟩ := hrun 2 d.day (by decide) d.day_lt
  have hyear : d.year = year.value := by rw [hn, hyv]
  refine ⟨⟨year, month, day⟩, ?_, ⟨hyear, hmv.symm, hdv.symm⟩⟩
  rw [← String.toList_inj, ← hs, Date.toList_text, hn, Date.yearText_natCast hlt]
  simp only [text, String.toList_ofList, chars, hy, hm, hd]

/-! ## No layout takes a day alone -/

theorem zoned?_chars : DateTime.zoned? w.chars = none := by
  rw [DateTime.zoned?, w.front?_chars]
  rfl

theorem loose?_chars (gap : DateTime.Gap) (seconds : Bool) :
    DateTime.loose? gap seconds w.chars = none := by
  have hfront := Run.looseFront?_chars w.year w.month w.day []
  rw [List.append_nil] at hfront
  simp only [chars, DateTime.loose?, ↓Date.bind_of_eq_some hfront]
  cases gap <;> rfl

/-- A day alone reads as its midnight. -/
theorem dateTimeParse?_text : DateTime.parse? w.text =
    (Date.parse? w.text).map (⟨·, Time.midnight⟩) := by
  rw [DateTime.parse?, text, String.toList_ofList, w.zoned?_chars]
  simp only [w.loose?_chars]
  rfl

end Day

/-! ## Main statement -/

/-- **Dates are read exactly.** A text reads as a date if it is four digits, two digits and two digits
with hyphens between them, and the calendar has such a day. The text of that date is the text that was
read; as a date with a time it is midnight of the day, so that the way to a date over a date with a time
is the straight one. -/
theorem date_exact (s : String) :
    (∀ d, Date.parse? s = some d ↔ ∃ w : Day, w.text = s ∧ w.Shows d) ∧
    ((∃ d, Date.parse? s = some d) ↔ ∃ w : Day, w.text = s ∧ w.Real) ∧
    ∀ d, Date.parse? s = some d → (Value.date d).text = s ∧
      DateTime.parse? s = some ⟨d, Time.midnight⟩ ∧ coerce .date (.str s) = .ok (.date d) ∧
      (coerce .dateTime (.str s)).bind (coerce .date) = .ok (.date d) := by
  have hread : ∀ d, Date.parse? s = some d ↔ ∃ w : Day, w.text = s ∧ w.Shows d := by
    intro d
    constructor
    · exact Day.exists_shown
    · rintro ⟨w, rfl, hw⟩
      exact w.parse?_text.2 hw
  refine ⟨hread, ?_, fun d hd => ?_⟩
  · constructor
    · rintro ⟨d, hd⟩
      obtain ⟨w, hw, hs⟩ := (hread d).1 hd
      exact ⟨w, hw, w.exists_shows.1 ⟨d, hs⟩⟩
    · rintro ⟨w, rfl, hw⟩
      obtain ⟨d, hd⟩ := w.exists_shows.2 hw
      exact ⟨d, w.parse?_text.2 hd⟩
  · obtain ⟨w, rfl, -⟩ := (hread d).1 hd
    have hmidnight : DateTime.parse? w.text = some ⟨d, Time.midnight⟩ := by
      rw [w.dateTimeParse?_text, hd, Option.map_some]
    refine ⟨?_, hmidnight, ?_, ?_⟩
    · rw [Value.text]
      exact (Date.parse?_eq_some.1 hd).2
    · simp only [coerce, hd, Coerce.reading]
    · simp only [coerce, hmidnight, Coerce.reading, Except.bind]

/-- The leap day of the year zero. -/
theorem date_exact_leap : ∃ d, Date.parse? "0000-02-29" = some d ∧ (Value.date d).text = "0000-02-29" ∧
    DateTime.parse? "0000-02-29" = some ⟨d, Time.midnight⟩ ∧
    (coerce .dateTime (.str "0000-02-29")).bind (coerce .date) = .ok (.date d) := by
  have hread : Date.parse? "0000-02-29" = some ⟨0, 2, 29, by decide, by decide⟩ := by decide
  obtain ⟨htext, hmidnight, -, hway⟩ := (date_exact "0000-02-29").2.2 _ hread
  exact ⟨_, hread, htext, hmidnight, hway⟩

end Conform
