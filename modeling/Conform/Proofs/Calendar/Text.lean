import Conform.Calendar.DateTime
import Conform.Proofs.Text.Digit

/-!
# The texts of dates and times

A text that reads as a date is the text of that date: its shape and the layout for it leave digits at
full width only. The text of a date and time reads as that date and time: the layout with an offset does
not take it, and the first layout without one does.

* `Date.parse?_eq`: reading a date is reading four, two and two digits;
* `Date.parse?_eq_some`: which texts read as a date;
* `DateTime.parse?_text`: reading what was printed;
* `DateTime.dateParse?_text`: the text of a date and time does not read as a date.
-/

namespace Conform

namespace Date

/-! ## Padded numbers -/

variable {w n : Nat}

theorem toList_pad (w n : Nat) : (pad w n).toList =
    List.replicate (w - (Nat.toDigits 10 n).length) '0' ++ Nat.toDigits 10 n := by
  simp [pad]

theorem isDigit_of_mem_pad : ∀ c ∈ (pad w n).toList, c.isDigit = true := by
  intro c hc
  rw [toList_pad, List.mem_append] at hc
  rcases hc with hc | hc
  · rw [List.eq_of_mem_replicate hc]
    rfl
  · exact Nat.isDigit_of_mem_toDigits (by decide) (by decide) hc

theorem natOfDigits_pad : Text.natOfDigits (pad w n).toList = n := by
  change Nat.ofDigitChars 10 (pad w n).toList 0 = n
  rw [toList_pad, Nat.ofDigitChars_append, Nat.ofDigitChars_replicate_zero, Nat.mul_zero,
    Nat.ofDigitChars_ten_toDigits]

theorem length_pad (hw : 0 < w) (hn : n < 10 ^ w) : (pad w n).toList.length = w := by
  have := (Nat.length_toDigits_le_iff (b := 10) (by decide) hw).2 hn
  rw [toList_pad, List.length_append, List.length_replicate]
  omega

theorem exists_pad_eq_cons (w n : Nat) : ∃ c cs, c.isDigit = true ∧ (pad w n).toList = c :: cs := by
  cases hp : (pad w n).toList with
  | nil => simp [toList_pad] at hp
  | cons c cs =>
    have hc : c ∈ (pad w n).toList := by simp only [hp, List.mem_cons_self]
    exact ⟨c, cs, isDigit_of_mem_pad c hc, rfl⟩

/-- The number that digits write, padded to their length, is these digits. -/
theorem pad_natOfDigits {ds : List Char} (hw : 0 < w) (hlen : ds.length = w)
    (hds : ∀ c ∈ ds, c.isDigit = true) : (pad w (Text.natOfDigits ds)).toList = ds := by
  have hlt := Text.natOfDigits_lt hds
  rw [hlen] at hlt
  have hlen' := (length_pad hw hlt).trans hlen.symm
  exact Text.natOfDigits_inj hlen' isDigit_of_mem_pad hds natOfDigits_pad

/-! ## Reading the parts of a date -/

/-- A number of fixed width is read exactly where it was printed. -/
theorem digits?_eq_some (hw : 0 < w) {cs r : List Char} :
    digits? w cs = some (n, r) ↔ n < 10 ^ w ∧ cs = (pad w n).toList ++ r := by
  simp only [digits?, List.all_eq_true]
  constructor
  · intro h
    split at h
    · rename_i hds
      obtain ⟨rfl, rfl⟩ : _ ∧ _ := by simpa using h
      have hlt := Text.natOfDigits_lt hds.2
      rw [hds.1] at hlt
      exact ⟨hlt, by rw [pad_natOfDigits hw hds.1 hds.2, List.take_append_drop]⟩
    · simp at h
  · rintro ⟨hn, hcs⟩
    have hlen := length_pad hw hn
    rw [hcs, List.take_left' hlen, List.drop_left' hlen, if_pos ⟨hlen, isDigit_of_mem_pad⟩,
      natOfDigits_pad]

theorem char?_eq_some {c : Char} {cs r : List Char} : char? c cs = some r ↔ cs = c :: r := by
  cases cs with
  | nil => simp [char?]
  | cons d cs =>
    rw [char?]
    split <;> simp_all

theorem char?_cons (c : Char) (r : List Char) : char? c (c :: r) = some r := char?_eq_some.2 rfl

/-- A date of fixed width is read exactly where it was printed. -/
theorem front?_eq_some {cs r : List Char} {y : Int} {m d : Nat} :
    front? cs = some (y, m, d, r) ↔ ∃ n : Nat, y = n ∧ n < 10 ^ 4 ∧ m < 10 ^ 2 ∧ d < 10 ^ 2 ∧
      cs = (pad 4 n).toList ++ '-' :: ((pad 2 m).toList ++ '-' :: ((pad 2 d).toList ++ r)) := by
  simp only [front?, Option.bind_eq_bind, Option.bind_eq_some_iff, Prod.exists,
    digits?_eq_some (w := 4) (by decide), digits?_eq_some (w := 2) (by decide), char?_eq_some]
  constructor
  · rintro ⟨n, cs₁, ⟨hn, hcs⟩, cs₂, h₁, m', cs₃, ⟨hm, h₂⟩, cs₄, h₃, d', r', ⟨hd, h₄⟩, h⟩
    obtain ⟨rfl, rfl, rfl, rfl⟩ : _ ∧ _ ∧ _ ∧ _ := by simpa using h
    rw [h₁, h₂, h₃, h₄] at hcs
    exact ⟨n, rfl, hn, hm, hd, hcs⟩
  · rintro ⟨n, rfl, hn, hm, hd, hcs⟩
    exact ⟨n, _, ⟨hn, hcs⟩, _, rfl, m, _, ⟨hm, rfl⟩, _, rfl, d, r, ⟨hd, rfl⟩, rfl⟩

theorem of?_eq_some {y : Int} {m k : Nat} {d : Date} :
    of? y m k = some d ↔ d.year = y ∧ d.month = m ∧ d.day = k := by
  unfold of?
  constructor
  · intro h
    split at h
    · split at h
      · obtain rfl := Option.some.inj h
        exact ⟨rfl, rfl, rfl⟩
      · simp at h
    · simp at h
  · rintro ⟨rfl, rfl, rfl⟩
    rw [dif_pos d.inYears, dif_pos d.inMonth]

theorem month_lt (d : Date) : d.month < 10 ^ 2 := by
  have := d.inMonth
  simp only [daysIn] at this
  split at this
  · omega
  · split at this
    · omega
    · split at this <;> omega

theorem day_lt (d : Date) : d.day < 10 ^ 2 := by
  have := d.inMonth
  simp only [daysIn] at this
  split at this
  · split at this <;> omega
  · split at this
    · omega
    · split at this <;> omega

theorem toList_text (d : Date) : d.text.toList = (yearText d.year).toList ++
    '-' :: ((pad 2 d.month).toList ++ '-' :: (pad 2 d.day).toList) := by
  simp [text]

theorem yearText_natCast {n : Nat} (hn : n < 10 ^ 4) : yearText n = pad 4 n := by
  rw [yearText, if_pos (by omega), Int.toNat_natCast]

/-- A year with a sign is no number of fixed width. -/
theorem front?_of_signed {y : Int} (hy : ¬ (0 ≤ y ∧ y ≤ 9999)) (r : List Char) :
    front? ((yearText y).toList ++ r) = none := by
  rw [yearText, if_neg hy]
  refine Option.eq_none_iff_forall_ne_some.2 fun x hx => ?_
  obtain ⟨n, -, -, -, -, h⟩ := front?_eq_some.1 hx
  obtain ⟨c, cs, hc, hp⟩ := exists_pad_eq_cons 4 n
  rw [hp] at h
  split at h
  · obtain rfl : '-' = c := by simpa using congrArg List.head? h
    simp at hc
  · obtain rfl : '+' = c := by simpa using congrArg List.head? h
    simp at hc

/-! ## Reading numbers without zeros in front -/

/-- A step of a layout that reads something. Layouts are simplified by it from the outside (`↓`): going
in first, each step would be gone through again once the one before it has a value. -/
theorem bind_of_eq_some {α β : Type} {a : Option α} {x : α} (h : a = some x) {f : α → Option β} :
    (a >>= f) = f x := by
  rw [h, Option.bind_eq_bind, Option.bind_some]

theorem number?_pad (hw : 0 < w) (hn : n < 10 ^ w) (r : List Char) :
    number? w ((pad w n).toList ++ r) = some (n, r) := by
  obtain ⟨c, cs, hc, hp⟩ := exists_pad_eq_cons w n
  have hblank : Text.dropBlank ((pad w n).toList ++ r) = (pad w n).toList ++ r := by
    rw [hp, List.cons_append, Text.dropBlank_of_isDecimal (Text.isDecimal_of_isDigit hc)]
  simp only [number?, hblank, List.takeWhile_append_of_pos isDigit_of_mem_pad,
    List.take_left' (length_pad hw hn)]
  rw [if_neg (by simp [hp]), natOfDigits_pad, List.drop_left]

theorem longNumber?_pad {r : List Char} (hr : ∀ c ∈ r.head?, c.isDigit = false) :
    longNumber? ((pad w n).toList ++ r) = some (n, r) := by
  obtain ⟨c, cs, -, hp⟩ := exists_pad_eq_cons w n
  simp only [longNumber?, Text.spanDigits_run isDigit_of_mem_pad hr]
  rw [if_neg (by simp [hp]), natOfDigits_pad]

theorem year?_of_isDecimal {c : Char} (hc : Text.isDecimal c = true) (r : List Char) :
    year? (c :: r) = (number? 4 (c :: r)).map fun (n, r) => ((n : Int), r) := by
  rw [year?, Text.dropBlank_of_isDecimal hc]
  split
  · rename_i h
    obtain ⟨rfl, -⟩ := List.cons.inj h
    cases hc
  · rename_i h
    obtain ⟨rfl, -⟩ := List.cons.inj h
    cases hc
  · rfl

theorem year?_minus (r : List Char) :
    year? ('-' :: r) = (longNumber? r).map fun (n, r) => (-(n : Int), r) := rfl

theorem year?_plus (r : List Char) :
    year? ('+' :: r) = (longNumber? r).map fun (n, r) => ((n : Int), r) := rfl

theorem year?_yearText (y : Int) (r : List Char) :
    year? ((yearText y).toList ++ '-' :: r) = some (y, '-' :: r) := by
  have hlong := longNumber?_pad (w := 4) (n := y.natAbs) (r := '-' :: r) (by simp)
  rw [yearText]
  split
  · rename_i hy
    obtain ⟨c, cs, hc, hp⟩ := exists_pad_eq_cons 4 y.toNat
    have hnum := number?_pad (w := 4) (n := y.toNat) (by decide) (by omega) ('-' :: r)
    rw [hp, List.cons_append] at hnum ⊢
    simp [year?_of_isDecimal (Text.isDecimal_of_isDigit hc), hnum, Int.toNat_of_nonneg hy.1]
  · split
    · have hy : -(y.natAbs : Int) = y := by omega
      have hsign : ("-" : String).toList = ['-'] := rfl
      simp only [String.toList_append, hsign, List.cons_append, List.nil_append, year?_minus, hlong,
        Option.map_some, hy]
    · have hy : (y.natAbs : Int) = y := by omega
      have hsign : ("+" : String).toList = ['+'] := rfl
      simp only [String.toList_append, hsign, List.cons_append, List.nil_append, year?_plus, hlong,
        Option.map_some, hy]

/-- A date is read where it was printed, with a sign in front of the year or without. -/
theorem looseFront?_text (d : Date) (r : List Char) :
    looseFront? (d.text.toList ++ r) = some (d.year, d.month, d.day, r) := by
  have hchars : d.text.toList ++ r = (yearText d.year).toList ++
      '-' :: ((pad 2 d.month).toList ++ '-' :: ((pad 2 d.day).toList ++ r)) := by
    rw [toList_text, List.append_assoc, List.cons_append, List.append_assoc, List.cons_append]
  rw [hchars]
  simp only [looseFront?, ↓bind_of_eq_some (year?_yearText _ _), ↓bind_of_eq_some (char?_cons _ _),
    ↓bind_of_eq_some (number?_pad (by decide) d.month_lt _),
    ↓bind_of_eq_some (number?_pad (by decide) d.day_lt _), pure]

/-! ## The shape of a date -/

section decimals

variable {α : Type} {ds r : List Char} (hlen : ds.length = w)
include hlen

theorem digits?_append : digits? w (ds ++ r) =
    if ds.all Char.isDigit then some (Text.natOfDigits ds, r) else none := by
  simp [digits?, List.take_left' hlen, List.drop_left' hlen, hlen]

/-- A reader that wants a number of at most `w` digits meets `w` digits of any script. It takes all of
them if they are ASCII digits. Otherwise it stops in front of a digit at the latest, and whatever takes
no digit cannot go on there. -/
theorem number?_bind (hw : 0 < w) (hds : ∀ c ∈ ds, Text.isDecimal c = true)
    {f : Nat × List Char → Option α} (hf : ∀ n c cs, Text.isDecimal c = true → f (n, c :: cs) = none) :
    (number? w (ds ++ r)).bind f =
      if ds.all Char.isDigit then f (Text.natOfDigits ds, r) else none := by
  have hblank : Text.dropBlank (ds ++ r) = ds ++ r := by
    obtain _ | ⟨c, cs⟩ := ds
    · exact absurd hlen hw.ne
    · exact Text.dropBlank_of_isDecimal (hds c List.mem_cons_self) _
  by_cases hall : ∀ c ∈ ds, c.isDigit = true
  · have hnum := number?_pad hw (hlen ▸ Text.natOfDigits_lt hall) r
    rw [pad_natOfDigits hw hlen hall] at hnum
    rw [hnum, if_pos (List.all_eq_true.2 hall), Option.bind_some]
  · rw [if_neg (mt List.all_eq_true.1 hall)]
    obtain ⟨c, hfind⟩ : ∃ c, ds.find? (!Char.isDigit ·) = some c := by
      rw [← Option.isSome_iff_exists, List.find?_isSome]
      simpa using hall
    obtain ⟨hc, p, cs, rfl, hp⟩ := List.find?_eq_some_iff_append.1 hfind
    have hspan : ((p ++ c :: (cs ++ r)).takeWhile Char.isDigit, _) = _ :=
      Text.span_run (by simpa using hp) (by simpa using hc)
    have hdecimal : Text.isDecimal c = true := hds c (by simp)
    have hlt : p.length < w := by
      rw [← hlen, List.length_append, List.length_cons]
      omega
    rw [List.append_assoc, List.cons_append] at hblank ⊢
    simp only [number?, hblank, (Prod.mk.inj hspan).1, List.take_of_length_le hlt.le, List.drop_left]
    split
    · rfl
    · exact hf _ _ _ hdecimal

end decimals

/-- A year of four digits has no sign. -/
theorem year?_bind {α : Type} {ds r : List Char} (hlen : ds.length = 4)
    (hds : ∀ c ∈ ds, Text.isDecimal c = true) {f : Int × List Char → Option α}
    (hf : ∀ n c cs, Text.isDecimal c = true → f (n, c :: cs) = none) :
    (year? (ds ++ r)).bind f =
      if ds.all Char.isDigit then f (Text.natOfDigits ds, r) else none := by
  have hyear : year? (ds ++ r) = (number? 4 (ds ++ r)).map fun (n, r) => ((n : Int), r) := by
    obtain _ | ⟨c, cs⟩ := ds
    · cases hlen
    · exact year?_of_isDecimal (hds c List.mem_cons_self) _
  rw [hyear, Option.bind_map, number?_bind hlen (by decide) hds fun n c cs hc => hf n c cs hc]
  rfl

theorem char?_of_isDecimal {c : Char} (hc : Text.isDecimal c = true) (cs : List Char) :
    char? '-' (c :: cs) = none := by
  rw [char?, if_neg]
  rintro rfl
  cases hc

theorem dropDecimals?_eq_some {cs : List Char} : dropDecimals? n cs = some r ↔
    ∃ ds : List Char, ds.length = n ∧ (∀ c ∈ ds, Text.isDecimal c = true) ∧ cs = ds ++ r := by
  simp only [dropDecimals?, List.all_eq_true]
  constructor
  · intro h
    split at h
    · rename_i hds
      obtain rfl := Option.some.inj h
      exact ⟨_, hds.1, hds.2, (List.take_append_drop _ _).symm⟩
    · cases h
  · rintro ⟨ds, hlen, hds, rfl⟩
    rw [List.take_left' hlen, List.drop_left' hlen, if_pos ⟨hlen, hds⟩]

theorem dropShape?_eq_some {cs : List Char} : dropShape? cs = some r ↔ ∃ y m d : List Char,
    (y.length = 4 ∧ ∀ c ∈ y, Text.isDecimal c = true) ∧
    (m.length = 2 ∧ ∀ c ∈ m, Text.isDecimal c = true) ∧
    (d.length = 2 ∧ ∀ c ∈ d, Text.isDecimal c = true) ∧ cs = y ++ '-' :: (m ++ '-' :: (d ++ r)) := by
  simp only [dropShape?, Option.bind_eq_bind, Option.bind_eq_some_iff, dropDecimals?_eq_some,
    char?_eq_some]
  constructor
  · rintro ⟨_, ⟨y, hy, hy', rfl⟩, _, rfl, _, ⟨m, hm, hm', rfl⟩, _, rfl, d, hd, hd', rfl⟩
    exact ⟨y, m, d, ⟨hy, hy'⟩, ⟨hm, hm'⟩, ⟨hd, hd'⟩, rfl⟩
  · rintro ⟨y, m, d, ⟨hy, hy'⟩, ⟨hm, hm'⟩, ⟨hd, hd'⟩, rfl⟩
    exact ⟨_, ⟨y, hy, hy', rfl⟩, _, rfl, _, ⟨m, hm, hm', rfl⟩, _, rfl, d, hd, hd', rfl⟩

/-- Digits of a date at full width are read alike by the two layouts, those of other scripts by none. -/
theorem loose?_of_shape {cs : List Char} (h : dropShape? cs = some []) : loose? cs =
    (front? cs).bind fun (y, m, d, cs) => if cs.isEmpty then of? y m d else none := by
  obtain ⟨y, m, d, ⟨hy, hy'⟩, ⟨hm, hm'⟩, ⟨hd, hd'⟩, rfl⟩ := dropShape?_eq_some.1 h
  simp only [loose?, looseFront?, front?, Option.bind_eq_bind, Option.bind_assoc, digits?_append hy]
  rw [year?_bind hy hy' fun n c cs hc => by rw [char?_of_isDecimal hc]; rfl]
  by_cases hyd : y.all Char.isDigit
  · simp only [if_pos hyd, char?_cons, Option.bind_some, digits?_append hm]
    rw [number?_bind hm (by decide) hm' fun n c cs hc => by rw [char?_of_isDecimal hc]; rfl]
    by_cases hmd : m.all Char.isDigit
    · simp only [if_pos hmd, char?_cons, Option.bind_some, digits?_append hd]
      rw [number?_bind hd (by decide) hd' fun n c cs hc => rfl]
      by_cases hdd : d.all Char.isDigit
      · simp only [if_pos hdd, Option.bind_some, pure]
      · simp only [if_neg hdd, Option.bind_none]
    · simp only [if_neg hmd, Option.bind_none]
  · simp only [if_neg hyd, Option.bind_none]

/-- Digits at full width have the shape of a date. -/
theorem dropShape?_of_front? {cs r : List Char} {y : Int} {m d : Nat}
    (h : front? cs = some (y, m, d, r)) : dropShape? cs = some r := by
  have hdecimal : ∀ w n, ∀ c ∈ (pad w n).toList, Text.isDecimal c = true :=
    fun w n c hc => Text.isDecimal_of_isDigit (isDigit_of_mem_pad c hc)
  obtain ⟨n, -, hn, hm, hd, hs⟩ := front?_eq_some.1 h
  exact dropShape?_eq_some.2 ⟨_, _, _, ⟨length_pad (by decide) hn, hdecimal 4 n⟩,
    ⟨length_pad (by decide) hm, hdecimal 2 m⟩, ⟨length_pad (by decide) hd, hdecimal 2 d⟩, hs⟩

/-- **Only digits at full width are read.** The shape leaves no white space and no sign to the layout
behind it, and the layout takes only ASCII digits, so that a text of the shape is read as four, two and
two of them, or not at all. -/
theorem parse?_eq (s : String) : parse? s =
    (front? s.toList).bind fun (y, m, d, cs) => if cs.isEmpty then of? y m d else none := by
  unfold parse?
  split
  · rename_i hshape
    exact loose?_of_shape hshape
  · rename_i hshape
    symm
    refine Option.eq_none_iff_forall_ne_some.2 fun d h => hshape ?_
    obtain ⟨⟨y, m, k, cs⟩, hfront, hd⟩ := Option.bind_eq_some_iff.1 h
    obtain rfl : cs = [] := by
      by_contra hne
      simp [hne] at hd
    exact dropShape?_of_front? hfront

/-- **Reading and printing dates.** A date is read from its text, if its year has four digits, and
from no other text. -/
theorem parse?_eq_some {s : String} {d : Date} : parse? s = some d ↔
    (0 ≤ d.year ∧ d.year ≤ 9999) ∧ d.text = s := by
  rw [← String.toList_inj, toList_text]
  simp only [parse?_eq, Option.bind_eq_some_iff, Prod.exists, front?_eq_some]
  constructor
  · rintro ⟨y, m, k, cs, ⟨n, rfl, hn, hm, hk, hs⟩, h⟩
    split at h
    · rename_i hcs
      obtain rfl : cs = [] := by simpa using hcs
      obtain ⟨hy, rfl, rfl⟩ := of?_eq_some.1 h
      rw [hy, yearText_natCast hn, hs, List.append_nil]
      exact ⟨by omega, rfl⟩
    · simp at h
  · rintro ⟨hy, hs⟩
    obtain ⟨n, hn⟩ := Int.eq_ofNat_of_zero_le hy.1
    have hlt : n < 10 ^ 4 := by omega
    rw [hn, yearText_natCast hlt] at hs
    refine ⟨n, d.month, d.day, [], ⟨n, rfl, hlt, d.month_lt, d.day_lt, ?_⟩, ?_⟩
    · rw [← hs, List.append_nil]
    · exact of?_eq_some.2 ⟨hn, rfl, rfl⟩

theorem notMem_text (d : Date) : 'T' ∉ d.text.toList := by
  have hpad : ∀ w n, 'T' ∉ (pad w n).toList := fun w n h => by simpa using isDigit_of_mem_pad _ h
  have hyear : 'T' ∉ (yearText d.year).toList := by
    rw [yearText]
    split
    · exact hpad _ _
    · split <;> simp [hpad]
  simp [toList_text, hpad, hyear]

end Date

namespace DateTime

/-! ## The parts of a time -/

open Date (pad)

variable {w n : Nat}

/-- The fraction of a second, as printed, is read to its end. -/
theorem fraction?_fractionText (hn : n < 1000000000) :
    fraction? (Time.fractionText n).toList = some (n, []) := by
  -- a fraction of `w` digits
  have hpoint : ∀ w k, 0 < w → w ≤ 9 → k < 10 ^ w →
      fraction? ("." ++ pad w k).toList = some (k * 10 ^ (9 - w), []) := by
    intro w k hw hw9 hk
    have hdigits : ∀ c ∈ (pad w k).toList, c.isDigit = true := Date.isDigit_of_mem_pad
    have hspan := Text.spanDigits_run hdigits (r := []) (by simp)
    rw [List.append_nil] at hspan
    have hlen := Date.length_pad hw hk
    have htake : (pad w k).toList.take 9 = (pad w k).toList := List.take_of_length_le (by omega)
    have hne : pad w k ≠ "" := by
      intro h
      simp [h] at hlen
      omega
    simp [fraction?, hspan, nanos, htake, hlen, hne, Date.natOfDigits_pad]
  rw [Time.fractionText]
  split
  · rename_i h
    rw [h]
    rfl
  · split
    · rw [hpoint 3 _ (by decide) (by decide) (by omega)]
      congr 2
      omega
    · split
      · rw [hpoint 6 _ (by decide) (by decide) (by omega)]
        congr 2
        omega
      · rw [hpoint 9 _ (by decide) (by decide) (by omega)]
        congr 2
        omega

/-! ## The whole text -/

theorem toList_text (d : DateTime) : d.text.toList = (Date.yearText d.date.year).toList ++
    '-' :: ((pad 2 d.date.month).toList ++ '-' :: ((pad 2 d.date.day).toList ++
    'T' :: ((pad 2 d.time.hour).toList ++ ':' :: ((pad 2 d.time.minute).toList ++
    ':' :: ((pad 2 (d.time.second + d.time.nano / 1000000000)).toList ++
    (Time.fractionText (d.time.nano % 1000000000)).toList))))) := by
  simp [text, Date.toList_text, Time.text]

/-- A leap second is on the clock as second 60. -/
theorem of?_clock (t : Time) : Time.of? t.hour t.minute (t.second + t.nano / 1000000000)
    (t.nano % 1000000000) = some t := by
  obtain ⟨h, m, s, n, hd, hs⟩ := t
  simp only [Time.of?]
  by_cases hleap : n < 1000000000
  · have hsec : s + n / 1000000000 = s := by omega
    have hne : s ≠ 60 := by omega
    simp only [hsec, Nat.mod_eq_of_lt hleap, if_neg hne]
    rw [dif_pos hd, dif_pos hs]
  · have hsec : s + n / 1000000000 = 60 := by omega
    have hn : n % 1000000000 + 1000000000 = n := by omega
    obtain rfl : s = 59 := by omega
    simp only [if_pos hsec, hn]
    rw [dif_pos hd]
    exact dif_pos (by simpa using hs)

theorem of?_parts (d : DateTime) : of? d.date.year d.date.month d.date.day d.time.hour d.time.minute
    (d.time.second + d.time.nano / 1000000000) (d.time.nano % 1000000000) = some d := by
  simp [of?, Date.of?_eq_some.2 ⟨rfl, rfl, rfl⟩, of?_clock]

/-- The text carries no offset. -/
theorem zoned?_text (d : DateTime) : zoned? d.text.toList = none := by
  have hday := d.time.inDay
  have hsecond := d.time.inSecond
  have hdigits : ∀ k, k < 10 ^ 2 → ∀ r, Date.digits? 2 ((pad 2 k).toList ++ r) = some (k, r) :=
    fun k hk r => (Date.digits?_eq_some (by decide)).2 ⟨hk, rfl⟩
  rw [toList_text]
  by_cases hy : 0 ≤ d.date.year ∧ d.date.year ≤ 9999
  · -- all of it is read, and then there is nothing left for an offset
    obtain ⟨n, hn⟩ := Int.eq_ofNat_of_zero_le hy.1
    have hlt : n < 10 ^ 4 := by omega
    have hfront : ∀ r, Date.front? ((pad 4 n).toList ++ '-' :: ((pad 2 d.date.month).toList ++
        '-' :: ((pad 2 d.date.day).toList ++ r))) = some ((n : Int), d.date.month, d.date.day, r) :=
      fun r => Date.front?_eq_some.2 ⟨n, rfl, hlt, d.date.month_lt, d.date.day_lt, rfl⟩
    rw [hn, Date.yearText_natCast hlt]
    simp only [zoned?, hfront, Option.bind_eq_bind, Option.bind_some, true_or, if_true, Date.char?,
      hdigits d.time.hour (by omega), hdigits d.time.minute (by omega),
      hdigits (d.time.second + d.time.nano / 1000000000) (by omega),
      fraction?_fractionText (n := d.time.nano % 1000000000) (by omega)]
    rfl
  · rw [zoned?, Date.front?_of_signed hy]
    rfl

/-- The text is in the first layout without an offset. -/
theorem loose?_text (d : DateTime) : loose? .letter true d.text.toList = some d := by
  have hday := d.time.inDay
  have hsecond := d.time.inSecond
  have htext : d.text.toList = d.date.text.toList ++ 'T' :: ((pad 2 d.time.hour).toList ++
      ':' :: ((pad 2 d.time.minute).toList ++ ':' :: ((pad 2 (d.time.second +
      d.time.nano / 1000000000)).toList ++ (Time.fractionText (d.time.nano % 1000000000)).toList))) := by
    simp [text, Time.text]
  rw [htext]
  simp only [loose?, Gap.drop?, ↓Date.bind_of_eq_some (Date.looseFront?_text _ _),
    ↓Date.bind_of_eq_some (Date.char?_cons _ _),
    ↓Date.bind_of_eq_some (Date.number?_pad (w := 2) (n := d.time.hour) (by decide) (by omega) _),
    ↓Date.bind_of_eq_some (Date.number?_pad (w := 2) (n := d.time.minute) (by decide) (by omega) _),
    ↓Date.bind_of_eq_some (Date.number?_pad (w := 2) (n := d.time.second + d.time.nano / 1000000000) (by decide)
      (by omega) _),
    ↓Date.bind_of_eq_some (fraction?_fractionText (n := d.time.nano % 1000000000) (by omega)),
    if_true, List.isEmpty_nil, of?_parts]

/-- **Printing and reading dates with times.** -/
theorem parse?_text (d : DateTime) : parse? d.text = some d := by
  rw [parse?, zoned?_text, loose?_text]
  rfl

theorem mem_text (d : DateTime) : 'T' ∈ d.text.toList := by
  simp [toList_text]

/-- The text is not one of a date alone. -/
theorem dateParse?_text (d : DateTime) : Date.parse? d.text = none := by
  refine Option.eq_none_iff_forall_ne_some.2 fun a h => a.notMem_text ?_
  rw [(Date.parse?_eq_some.1 h).2]
  exact d.mem_text

end DateTime

end Conform
