import Conform.Proofs.Calendar.Text
import Conform.Value.Json

/-!
# Instants of wall clock time

The text of a date and time is read as that date and time again. A time at full width is read alike with
an offset and without one, though different layouts take the two: what stands before the offset is read
in one way by all of them, and only the end of the text decides which of them takes it.

* `Wall`: a time at full width, as it is written; `Offset`: an offset, as it is written;
* `Wall.zoned?_chars`, `Wall.loose?_chars`, `Wall.dateParse?_chars`: what each layout makes of a time at
  full width and whatever follows it;
* `Wall.Shows`: the date and time that is written;
* `text_rereads`, `offset_dropped`: the main statements.
-/

namespace Conform

/-! ## Digits of fixed width -/

/-- A run of `w` digits. -/
structure Run (w : Nat) where
  chars : List Char
  width : chars.length = w
  digits : ∀ c ∈ chars, c.isDigit = true

namespace Run

variable {w : Nat}

/-- The number that is written. -/
def value (x : Run w) : Nat := Text.natOfDigits x.chars

theorem value_lt (x : Run w) : x.value < 10 ^ w := by
  have := Text.natOfDigits_lt x.digits
  rwa [x.width] at this

theorem chars_eq_pad (x : Run w) (hw : 0 < w) : x.chars = (Date.pad w x.value).toList :=
  (Date.pad_natOfDigits hw x.width x.digits).symm

theorem digits?_chars (x : Run w) (hw : 0 < w) (r : List Char) :
    Date.digits? w (x.chars ++ r) = some (x.value, r) := by
  rw [Date.digits?_eq_some hw, ← x.chars_eq_pad hw]
  exact ⟨x.value_lt, rfl⟩

theorem number?_chars (x : Run w) (hw : 0 < w) (r : List Char) :
    Date.number? w (x.chars ++ r) = some (x.value, r) := by
  rw [x.chars_eq_pad hw, Date.number?_pad hw x.value_lt]

theorem exists_cons (x : Run w) (hw : 0 < w) : ∃ c cs, c.isDigit = true ∧ x.chars = c :: cs := by
  rw [x.chars_eq_pad hw]
  exact Date.exists_pad_eq_cons w x.value

theorem dropBlank_chars (x : Run w) (hw : 0 < w) (r : List Char) :
    Text.dropBlank (x.chars ++ r) = x.chars ++ r := by
  obtain ⟨c, cs, hc, h⟩ := x.exists_cons hw
  rw [h, List.cons_append, Text.dropBlank_of_isDecimal (Text.isDecimal_of_isDigit hc)]

theorem year?_chars (x : Run 4) (r : List Char) :
    Date.year? (x.chars ++ r) = some ((x.value : Int), r) := by
  have hnum := x.number?_chars (by decide) r
  obtain ⟨c, cs, hc, h⟩ := x.exists_cons (by decide)
  rw [h, List.cons_append] at hnum ⊢
  rw [Date.year?_of_isDecimal (Text.isDecimal_of_isDigit hc), hnum]
  rfl

/-- A date at full width is read where it is written by a layout that needs no full width too. -/
theorem looseFront?_chars (y : Run 4) (m d : Run 2) (r : List Char) :
    Date.looseFront? (y.chars ++ '-' :: (m.chars ++ '-' :: (d.chars ++ r))) =
      some ((y.value : Int), m.value, d.value, r) := by
  simp only [Date.looseFront?, ↓Date.bind_of_eq_some (y.year?_chars _),
    ↓Date.bind_of_eq_some (Date.char?_cons _ _), ↓Date.bind_of_eq_some (m.number?_chars (by decide) _),
    ↓Date.bind_of_eq_some (d.number?_chars (by decide) _), pure]

end Run

namespace DateTime

/-! ## Times as they are written -/

/-- What is written between the date and the time of day. -/
def Gap.mark : Gap → Char
  | .letter => 'T'
  | .blank => ' '

/-- A time at full width. It has a point if its fraction has a digit. -/
structure Wall where
  year : Run 4
  month : Run 2
  day : Run 2
  gap : Gap
  hour : Run 2
  minute : Run 2
  second : Run 2
  fraction : List Char
  decimals : ∀ c ∈ fraction, c.isDigit = true

namespace Wall

/-- The fraction with its point. -/
def point (w : Wall) : List Char := if w.fraction.isEmpty then [] else '.' :: w.fraction

/-- The characters that are written. -/
def chars (w : Wall) : List Char :=
  w.year.chars ++ '-' :: (w.month.chars ++ '-' :: (w.day.chars ++ w.gap.mark ::
    (w.hour.chars ++ ':' :: (w.minute.chars ++ ':' :: (w.second.chars ++ w.point)))))

/-- The text that is written. -/
def text (w : Wall) : String := String.ofList w.chars

/-- The billionths that are written: nine digits of the fraction, with zeros for those that are not
there. -/
def nano (w : Wall) : Nat := Text.natOfDigits ((w.fraction ++ List.replicate 9 '0').take 9)

/-- There is such a day, and such a time of day. Second 60 is the leap second. -/
def Real (w : Wall) : Prop :=
  (1 ≤ w.day.value ∧ w.day.value ≤ daysIn w.year.value w.month.value) ∧
    w.hour.value < 24 ∧ w.minute.value < 60 ∧ w.second.value ≤ 60

/-- The date and time is the one that is written. -/
structure Shows (w : Wall) (d : DateTime) : Prop where
  year : d.date.year = w.year.value
  month : d.date.month = w.month.value
  day : d.date.day = w.day.value
  hour : d.time.hour = w.hour.value
  minute : d.time.minute = w.minute.value
  second : w.second.value < 60 ∧ d.time.second = w.second.value ∧ d.time.nano = w.nano ∨
    w.second.value = 60 ∧ d.time.second = 59 ∧ d.time.nano = w.nano + 1000000000

end Wall

/-- An offset of less than a day. -/
inductive Offset where
  | zero (c : Char) (hc : c = 'Z' ∨ c = 'z')
  | shift (sign : Char) (hour minute : Run 2) (hsign : sign = '+' ∨ sign = '-' ∨ sign = '\u2212')
      (hhour : hour.value ≤ 23) (hminute : minute.value ≤ 59)

/-- The characters of an offset. -/
def Offset.chars : Offset → List Char
  | .zero c _ => [c]
  | .shift sign hour minute _ _ _ => sign :: (hour.chars ++ ':' :: minute.chars)

/-- The text of an offset. -/
def Offset.text (f : Offset) : String := String.ofList f.chars

/-! ## What can follow a time -/

/-- What follows does not go on with the fraction. -/
def Ends (r : List Char) : Prop := ∀ c ∈ r.head?, c.isDigit = false ∧ c ≠ '.'

theorem ends_nil : Ends [] := by simp [Ends]

theorem Offset.ends_chars (f : Offset) : Ends f.chars := by
  cases f with
  | zero c hc => rcases hc with rfl | rfl <;> simp [Ends, chars]
  | shift sign hour minute hsign => rcases hsign with rfl | rfl | rfl <;> simp [Ends, chars]

theorem Offset.isOffset_chars (f : Offset) : isOffset f.chars = true := by
  cases f with
  | zero c hc => rcases hc with rfl | rfl <;> rfl
  | shift sign hour minute hsign hhour hminute =>
    have hminutes := minute.digits?_chars (by decide) []
    rw [List.append_nil] at hminutes
    have hs : isSign sign = true := by rcases hsign with rfl | rfl | rfl <;> decide
    rw [chars, isOffset]
    · simp [hs, hour.digits?_chars, Date.char?, hminutes]
      omega
    · simp
    · simp

/-! ## What each layout makes of a time -/

theorem nanos_eq (ds : List Char) :
    nanos ds = Text.natOfDigits ((ds ++ List.replicate 9 '0').take 9) := by
  rw [nanos, List.take_append, List.take_replicate, Text.natOfDigits_append_zeros, List.length_take]
  congr 2
  omega

namespace Wall

variable (w : Wall) {r : List Char}

theorem nano_lt : w.nano < 1000000000 := by
  have hdigits : ∀ c ∈ (w.fraction ++ List.replicate 9 '0').take 9, c.isDigit = true := by
    intro c hc
    rcases List.mem_append.1 (List.mem_of_mem_take hc) with hc | hc
    · exact w.decimals c hc
    · rw [List.eq_of_mem_replicate hc]
      rfl
  have := Text.natOfDigits_lt hdigits
  simpa [nano] using this

theorem fraction?_point (hr : Ends r) : fraction? (w.point ++ r) = some (w.nano, r) := by
  rw [point, nano, ← nanos_eq]
  split
  · rename_i h
    obtain h : w.fraction = [] := by simpa using h
    rw [List.nil_append, h]
    cases r with
    | nil => rfl
    | cons c r =>
      have hc : c ≠ '.' := (hr c rfl).2
      rw [fraction?.eq_2 _ (by simpa using hc)]
      rfl
  · rename_i h
    have hspan := Text.spanDigits_run w.decimals (r := r) fun c hc => (hr c hc).1
    simp only [List.cons_append, fraction?, hspan]
    rw [if_neg h]

/-- The date and time from the numbers that are written. -/
def read? : Option DateTime :=
  of? w.year.value w.month.value w.day.value w.hour.value w.minute.value w.second.value w.nano

theorem front?_chars : Date.front? (w.chars ++ r) = some ((w.year.value : Int), w.month.value,
    w.day.value, w.gap.mark :: (w.hour.chars ++ ':' :: (w.minute.chars ++ ':' ::
      (w.second.chars ++ (w.point ++ r))))) := by
  simp only [chars, List.append_assoc, List.cons_append, Date.front?, Option.bind_eq_bind,
    Option.bind_some, w.year.digits?_chars (by decide), w.month.digits?_chars (by decide),
    w.day.digits?_chars (by decide), Date.char?, if_true, pure]

theorem zoned?_chars (hr : Ends r) :
    zoned? (w.chars ++ r) = if isOffset r then w.read? else none := by
  have hmark : w.gap.mark = 'T' ∨ w.gap.mark = 't' ∨ w.gap.mark = ' ' := by
    cases w.gap <;> simp [Gap.mark]
  simp only [zoned?, w.front?_chars, Option.bind_eq_bind, Option.bind_some, if_pos hmark,
    w.hour.digits?_chars (by decide), w.minute.digits?_chars (by decide),
    w.second.digits?_chars (by decide), Date.char?, if_true, w.fraction?_point hr, read?]

/-- A layout without an offset reads up to the end of the text, and needs the seconds to get there. -/
theorem loose?_chars (hr : Ends r) (seconds : Bool) :
    loose? w.gap seconds (w.chars ++ r) = if seconds && r.isEmpty then w.read? else none := by
  have hgap : ∀ cs, w.gap.drop? (w.gap.mark :: (w.hour.chars ++ cs)) = some (w.hour.chars ++ cs) := by
    intro cs
    cases w.gap with
    | letter => exact Date.char?_cons 'T' _
    | blank => exact congrArg some (w.hour.dropBlank_chars (by decide) cs)
  simp only [chars, List.append_assoc, List.cons_append, loose?,
    ↓Date.bind_of_eq_some (Run.looseFront?_chars _ _ _ _), ↓Date.bind_of_eq_some (hgap _),
    ↓Date.bind_of_eq_some (w.hour.number?_chars (by decide) _),
    ↓Date.bind_of_eq_some (Date.char?_cons _ _),
    ↓Date.bind_of_eq_some (w.minute.number?_chars (by decide) _),
    ↓Date.bind_of_eq_some (w.second.number?_chars (by decide) _),
    ↓Date.bind_of_eq_some (w.fraction?_point hr)]
  cases seconds <;> simp [read?]

/-- A layout with the other gap finds no time of day. -/
theorem loose?_other {gap : Gap} (h : gap ≠ w.gap) (seconds : Bool) :
    loose? gap seconds (w.chars ++ r) = none := by
  simp only [chars, List.append_assoc, List.cons_append, loose?,
    ↓Date.bind_of_eq_some (Run.looseFront?_chars _ _ _ _)]
  generalize w.gap = own at h ⊢
  cases gap with
  | letter =>
    cases own with
    | letter => exact absurd rfl h
    | blank => rfl
  | blank =>
    cases own with
    | letter => rfl
    | blank => exact absurd rfl h

/-- A time is no date. -/
theorem dateParse?_chars : Date.parse? (String.ofList (w.chars ++ r)) = none := by
  rw [Date.parse?_eq, String.toList_ofList, w.front?_chars]
  rfl

theorem parse?_append (hr : Ends r) : parse? (String.ofList (w.chars ++ r)) =
    if isOffset r || r.isEmpty then w.read? else none := by
  have hown := w.loose?_chars hr
  have hother : ∀ gap, gap ≠ w.gap → ∀ seconds, loose? gap seconds (w.chars ++ r) = none :=
    fun _ h => w.loose?_other h
  generalize w.gap = own at hown hother
  rw [parse?, String.toList_ofList, w.zoned?_chars hr, w.dateParse?_chars]
  cases own with
  | letter =>
    simp only [hown, hother .blank (by simp)]
    cases isOffset r <;> cases r.isEmpty <;> simp
  | blank =>
    simp only [hown, hother .letter (by simp)]
    cases isOffset r <;> cases r.isEmpty <;> simp

end Wall

/-! ## The date and time that is written -/

theorem timeOf?_eq_some {h m s n : Nat} (hn : n < 1000000000) {t : Time} :
    Time.of? h m s n = some t ↔ t.hour = h ∧ t.minute = m ∧
      (s < 60 ∧ t.second = s ∧ t.nano = n ∨ s = 60 ∧ t.second = 59 ∧ t.nano = n + 1000000000) := by
  obtain ⟨h', m', s', n', hd, hs⟩ := t
  rw [Time.of?]
  dsimp only
  -- a leap second is kept as second 59, with a fraction above that of any other
  by_cases hleap : s = 60
  · rw [if_pos hleap, if_pos hleap]
    split
    · split
      · rw [Option.some.injEq, Time.mk.injEq]
        omega
      · omega
    · simp only [reduceCtorEq, false_iff]
      omega
  · rw [if_neg hleap, if_neg hleap]
    split
    · split
      · rw [Option.some.injEq, Time.mk.injEq]
        omega
      · omega
    · simp only [reduceCtorEq, false_iff]
      omega

theorem exists_timeOf? {h m s n : Nat} (hn : n < 1000000000) :
    (∃ t, Time.of? h m s n = some t) ↔ h < 24 ∧ m < 60 ∧ s ≤ 60 := by
  simp only [timeOf?_eq_some hn]
  constructor
  · rintro ⟨t, rfl, rfl, hs⟩
    have := t.inDay
    omega
  · rintro ⟨hh, hm, hs⟩
    by_cases hleap : s = 60
    · exact ⟨⟨h, m, 59, n + 1000000000, by omega, by omega⟩, rfl, rfl, by simp [hleap]⟩
    · exact ⟨⟨h, m, s, n, by omega, by omega⟩, rfl, rfl, by simp; omega⟩

theorem exists_dateOf? {y : Int} {m d : Nat} (hy : -262143 ≤ y ∧ y ≤ 262142) :
    (∃ a, Date.of? y m d = some a) ↔ 1 ≤ d ∧ d ≤ daysIn y m := by
  simp only [Date.of?_eq_some]
  constructor
  · rintro ⟨a, rfl, rfl, rfl⟩
    exact a.inMonth
  · intro hd
    exact ⟨⟨y, m, d, hy, hd⟩, rfl, rfl, rfl⟩

theorem of?_eq_some {y : Int} {mo k h mi s n : Nat} {d : DateTime} :
    of? y mo k h mi s n = some d ↔
      Date.of? y mo k = some d.date ∧ Time.of? h mi s n = some d.time := by
  obtain ⟨date, time⟩ := d
  simp [of?, Option.bind_eq_some_iff]

namespace Wall

variable (w : Wall)

theorem read?_eq_some {d : DateTime} : w.read? = some d ↔ w.Shows d := by
  rw [read?, of?_eq_some, Date.of?_eq_some, timeOf?_eq_some w.nano_lt]
  constructor
  · rintro ⟨⟨hy, hmo, hk⟩, hh, hmi, hs⟩
    exact ⟨hy, hmo, hk, hh, hmi, hs⟩
  · rintro ⟨hy, hmo, hk, hh, hmi, hs⟩
    exact ⟨⟨hy, hmo, hk⟩, hh, hmi, hs⟩

theorem exists_shows : (∃ d, w.Shows d) ↔ w.Real := by
  have hyear := w.year.value_lt
  rw [Real, ← exists_dateOf? (by omega), ← exists_timeOf? w.nano_lt]
  simp only [← read?_eq_some, read?, of?_eq_some]
  constructor
  · rintro ⟨d, hd, ht⟩
    exact ⟨⟨_, hd⟩, _, ht⟩
  · rintro ⟨⟨a, ha⟩, t, ht⟩
    exact ⟨⟨a, t⟩, ha, ht⟩

end Wall

/-! ## Main statements -/

/-- **Texts of dates with times are read again.** Whatever text a date and time was read from, its own
text is read as the same date and time, to the last part; and there is no date and time, in any year and
at any leap second, that is not read from some text. -/
theorem text_rereads :
    (∀ s d, parse? s = some d → parse? (Value.dateTime d).text = some d) ∧
    ∀ d, ∃ s, parse? s = some d :=
  ⟨fun _ d _ => parse?_text d, fun d => ⟨d.text, parse?_text d⟩⟩

/-- The last second of a day, with a digit too many and no zeros in front, in the first year there is. -/
theorem text_rereads_leap :
    ∃ d, parse? "-262143-1-1T23:59:60.5000000019" = some d ∧
      (Value.dateTime d).text = "-262143-01-01T23:59:60.500000001" ∧
      parse? "-262143-01-01T23:59:60.500000001" = some d := by
  have hread : parse? "-262143-1-1T23:59:60.5000000019" = some ⟨⟨-262143, 1, 1, by decide, by decide⟩,
      ⟨23, 59, 59, 1500000001, by decide, by decide⟩⟩ := by decide
  have htext := text_rereads.1 _ _ hread
  exact ⟨_, hread, by decide, htext⟩

/-- **An offset is dropped.** A time at full width is read alike with an offset and without. It is read
if there is such a day and such a time of day, and what is read is what is written before the offset:
of a fraction the first nine digits, and second 60 as the leap second. -/
theorem offset_dropped (w : Wall) (f : Offset) :
    parse? (w.text ++ f.text) = parse? w.text ∧
    (∀ d, parse? w.text = some d ↔ w.Shows d) ∧
    ((∃ d, parse? w.text = some d) ↔ w.Real) := by
  have hbare : parse? w.text = w.read? := by
    simpa [Wall.text] using w.parse?_append ends_nil
  have hoffset : parse? (w.text ++ f.text) = w.read? := by
    simpa [Wall.text, Offset.text, String.ofList_append, f.isOffset_chars] using
      w.parse?_append f.ends_chars
  refine ⟨hoffset.trans hbare.symm, fun d => ?_, ?_⟩
  · rw [hbare, w.read?_eq_some]
  · simp only [hbare, w.read?_eq_some, w.exists_shows]

/-- The last second of a leap day, with a digit too many. -/
def Wall.leap : Wall where
  year := ⟨['2', '0', '0', '0'], rfl, by simp⟩
  month := ⟨['0', '2'], rfl, by simp⟩
  day := ⟨['2', '9'], rfl, by simp⟩
  gap := .blank
  hour := ⟨['2', '3'], rfl, by simp⟩
  minute := ⟨['5', '9'], rfl, by simp⟩
  second := ⟨['6', '0'], rfl, by simp⟩
  fraction := ['9', '9', '9', '9', '9', '9', '9', '9', '9', '9']
  decimals := by simp

/-- Nine hours behind. -/
def Offset.behind : Offset :=
  .shift '\u2212' ⟨['0', '9'], rfl, by simp⟩ ⟨['3', '0'], rfl, by simp⟩ (by decide) (by decide)
    (by decide)

/-- The leap second is read with the offset as without, though only without it in a loose layout. -/
theorem offset_dropped_leap :
    Wall.leap.text = "2000-02-29 23:59:60.9999999999" ∧ Offset.behind.text = "\u221209:30" ∧
    ∃ d, parse? "2000-02-29 23:59:60.9999999999" = some d ∧ Wall.leap.Shows d ∧
      parse? "2000-02-29 23:59:60.9999999999\u221209:30" = some d := by
  obtain ⟨hsame, hshows, hreal⟩ := offset_dropped Wall.leap Offset.behind
  obtain ⟨d, hd⟩ := hreal.2 ⟨by decide, by decide, by decide, by decide⟩
  exact ⟨by decide, by decide, d, hd, (hshows d).1 hd, hsame.trans hd⟩

end DateTime

end Conform
