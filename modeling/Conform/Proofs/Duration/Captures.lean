import Conform.Calendar.Duration
import Conform.Proofs.Text.Digit

/-!
# What is captured of a duration

The components of a duration are captured one after the other, and a component that was passed over is
never tried again. No other way to capture them is lost by that: the first letter behind the digits in
front says which component comes next, so that a text is divided into components in one way only.

* `Captures.Divides`: the components divide the text, each with its letter and those of the clock
  behind their mark;
* `group?_groupChars`, `secondsGroup?_groupChars`: what stands in front is captured;
* `exists_group?`, `exists_secondsGroup?`: what is captured stood in front;
* `captures?_eq_some`: what is captured divides the text, and nothing else does.
-/

namespace Conform.Duration

/-! ## Digits -/

/-- Digits of any script. -/
def Digits (cs : List Char) : Prop := cs ≠ [] ∧ ∀ c ∈ cs, Text.isDecimal c = true

/-- Digits of any script, or such digits with a point between them. -/
def Pointed (cs : List Char) : Prop :=
  Digits cs ∨ ∃ ds es, Digits ds ∧ Digits es ∧ cs = ds ++ '.' :: es

/-- The first character that is no digit. -/
def letter (cs : List Char) : Option Char := (Text.spanDecimals cs).2.head?

theorem Digits.spanDecimals {ds : List Char} (h : Digits ds) {u : Char}
    (hu : Text.isDecimal u = false) (r : List Char) :
    Text.spanDecimals (ds ++ u :: r) = (ds, u :: r) :=
  Text.spanDecimals_run h.2 (by simpa using hu)

/-! ## Components -/

/-- A component with its letter, if it is there. -/
def groupChars (u : Char) : Option (List Char) → List Char
  | none => []
  | some cs => cs ++ [u]

section group

variable {u : Char} {c : Option (List Char)} {r : List Char}

theorem letter_groupChars (hc : ∀ ds ∈ c, Digits ds) {v : Char} (hv : Text.isDecimal v = false)
    (hne : v ≠ u) (hr : letter r ≠ some u) : letter (groupChars v c ++ r) ≠ some u := by
  cases c with
  | none => exact hr
  | some ds =>
    rw [groupChars, List.append_assoc, letter, List.singleton_append, (hc ds rfl).spanDecimals hv]
    simpa using hne

/-- A component in front is captured. One that is not there is passed over if another letter comes
first. -/
theorem group?_groupChars (hc : ∀ ds ∈ c, Digits ds) (hu : Text.isDecimal u = false)
    (hr : letter r ≠ some u) : group? u (groupChars u c ++ r) = (c, r) := by
  cases c with
  | none =>
    change group? u r = (none, r)
    simp only [group?]
    split
    · rename_i v r' hv
      have hv : v ≠ u := by simpa [letter, hv] using hr
      rw [if_neg fun h => hv h.1]
    · rfl
  | some ds =>
    simp only [groupChars, List.append_assoc, List.singleton_append, group?,
      (hc ds rfl).spanDecimals hu]
    simp [(hc ds rfl).1]

/-- What is captured of a component stood in front. -/
theorem exists_group? (u : Char) (cs : List Char) :
    ∃ c r, group? u cs = (c, r) ∧ cs = groupChars u c ++ r ∧ ∀ ds ∈ c, Digits ds := by
  have hspan := Text.spanDecimals_append cs
  have hdigits := Text.spanDecimals_all cs
  simp only [group?]
  split
  · rename_i v r hv
    split
    · rename_i h
      obtain ⟨rfl, hne⟩ : v = u ∧ (Text.spanDecimals cs).1 ≠ [] := by simpa using h
      refine ⟨_, _, rfl, ?_, ?_⟩
      · rw [hv] at hspan
        simpa [groupChars] using hspan.symm
      · rintro ds ⟨⟩
        exact ⟨hne, hdigits⟩
    · exact ⟨none, cs, rfl, rfl, by simp⟩
  · exact ⟨none, cs, rfl, rfl, by simp⟩

end group

/-! ## Seconds -/

section seconds

variable {c : Option (List Char)} (hc : ∀ ds ∈ c, Pointed ds)
include hc

theorem letter_secondsChars {u : Char} (hpoint : u ≠ '.') (hu : u ≠ 'S') :
    letter (groupChars 'S' c) ≠ some u := by
  have hS : Text.isDecimal 'S' = false := by decide
  have hdot : Text.isDecimal '.' = false := by decide
  cases c with
  | none => simp [letter, groupChars, Text.spanDecimals]
  | some cs =>
    obtain hds | ⟨ds, es, hds, hes, rfl⟩ := hc cs rfl
    · simpa [letter, groupChars, hds.spanDecimals hS] using hu.symm
    · simpa [letter, groupChars, hds.spanDecimals hdot] using hpoint.symm

/-- Seconds are captured. -/
theorem secondsGroup?_groupChars : secondsGroup? (groupChars 'S' c) = (c, []) := by
  have hS : Text.isDecimal 'S' = false := by decide
  have hdot : Text.isDecimal '.' = false := by decide
  cases c with
  | none => rfl
  | some cs =>
    obtain hds | ⟨ds, es, hds, hes, rfl⟩ := hc cs rfl
    · simp [secondsGroup?, groupChars, fractionGroup, hds.spanDecimals hS, hds.1]
    · simp [secondsGroup?, groupChars, fractionGroup, hds.spanDecimals hdot, hds.1,
        hes.spanDecimals hS, hes.1]

end seconds

theorem exists_fractionGroup (cs : List Char) : ∃ f r, fractionGroup cs = (f, r) ∧ cs = f ++ r ∧
    (f = [] ∨ ∃ es, Digits es ∧ f = '.' :: es) := by
  unfold fractionGroup
  split
  · rename_i r
    have hspan := Text.spanDecimals_append r
    have hdigits := Text.spanDecimals_all r
    dsimp only
    split
    · exact ⟨_, _, rfl, rfl, Or.inl rfl⟩
    · rename_i hne
      exact ⟨_, _, rfl, by simp [hspan], Or.inr ⟨_, ⟨by simpa using hne, hdigits⟩, rfl⟩⟩
  · exact ⟨_, _, rfl, rfl, Or.inl rfl⟩

/-- What is captured of the seconds stood in front. -/
theorem exists_secondsGroup? (cs : List Char) : ∃ c r, secondsGroup? cs = (c, r) ∧
    cs = groupChars 'S' c ++ r ∧ ∀ ds ∈ c, Pointed ds := by
  have hspan := Text.spanDecimals_append cs
  have hdigits := Text.spanDecimals_all cs
  obtain ⟨f, r, hf, hr, hfraction⟩ := exists_fractionGroup (Text.spanDecimals cs).2
  simp only [secondsGroup?, hf]
  split
  · rename_i r'
    split
    · exact ⟨none, cs, rfl, rfl, by simp⟩
    · rename_i hne
      have hwhole : Digits (Text.spanDecimals cs).1 := ⟨by simpa using hne, hdigits⟩
      refine ⟨_, r', rfl, ?_, ?_⟩
      · rw [hr] at hspan
        simpa [groupChars] using hspan.symm
      · rintro ds ⟨⟩
        obtain rfl | ⟨es, hes, rfl⟩ := hfraction
        · exact Or.inl (by rwa [List.append_nil])
        · exact Or.inr ⟨_, es, hwhole, hes, rfl⟩
  · exact ⟨none, cs, rfl, rfl, by simp⟩

/-! ## The clock -/

/-- The components of the clock divide the text behind their mark. Without a component the mark may
be missing. -/
def ClockDivides (h m x : Option (List Char)) (cs : List Char) : Prop :=
  cs = [] ∧ h = none ∧ m = none ∧ x = none ∨
    cs = 'T' :: (groupChars 'H' h ++ (groupChars 'M' m ++ groupChars 'S' x))

theorem ClockDivides.letter_ne {h m x : Option (List Char)} {cs : List Char}
    (hclock : ClockDivides h m x cs) {u : Char} (hu : u ≠ 'T') : letter cs ≠ some u := by
  obtain ⟨rfl, -⟩ | rfl := hclock
  · simp [letter, Text.spanDecimals]
  · have hmark (r : List Char) : Text.spanDecimals ('T' :: r) = ([], 'T' :: r) := rfl
    simpa [letter, hmark] using hu.symm

/-- **What is captured of the clock** is what divides the text. -/
theorem clockGroups?_eq_some {cs : List Char} {h m x : Option (List Char)} :
    clockGroups? cs = some (h, m, x) ↔ (∀ ds ∈ h, Digits ds) ∧ (∀ ds ∈ m, Digits ds) ∧
      (∀ ds ∈ x, Pointed ds) ∧ ClockDivides h m x cs := by
  constructor
  · intro hp
    unfold clockGroups? at hp
    split at hp
    · obtain ⟨rfl, rfl, rfl⟩ : none = h ∧ none = m ∧ none = x := by simpa using hp
      exact ⟨by simp, by simp, by simp, Or.inl ⟨rfl, rfl, rfl, rfl⟩⟩
    · rename_i cs
      obtain ⟨h', r₁, hh, rfl, hh'⟩ := exists_group? 'H' cs
      obtain ⟨m', r₂, hm, rfl, hm'⟩ := exists_group? 'M' r₁
      obtain ⟨x', r₃, hx, rfl, hx'⟩ := exists_secondsGroup? r₂
      simp only [hh, hm, hx] at hp
      split at hp
      · rename_i hend
        obtain rfl : r₃ = [] := by simpa using hend
        obtain ⟨rfl, rfl, rfl⟩ : h' = h ∧ m' = m ∧ x' = x := by simpa using hp
        exact ⟨hh', hm', hx', Or.inr (by rw [List.append_nil])⟩
      · cases hp
    · cases hp
  · rintro ⟨hh, hm, hx, ⟨rfl, rfl, rfl, rfl⟩ | rfl⟩
    · rfl
    · have hminutes : letter (groupChars 'S' x) ≠ some 'M' :=
        letter_secondsChars hx (by decide) (by decide)
      have hhours : letter (groupChars 'M' m ++ groupChars 'S' x) ≠ some 'H' :=
        letter_groupChars hm (by decide) (by decide) (letter_secondsChars hx (by decide) (by decide))
      simp only [clockGroups?, group?_groupChars hh (by decide) hhours,
        group?_groupChars hm (by decide) hminutes, secondsGroup?_groupChars hx, List.isEmpty_nil, if_true]

/-! ## The whole text -/

/-- The components divide the text, in their order and each with its letter. -/
structure Captures.Divides (c : Captures) (cs : List Char) : Prop where
  digits : ∀ g ∈ [c.years, c.months, c.weeks, c.days, c.hours, c.minutes], ∀ ds ∈ g, Digits ds
  pointed : ∀ ds ∈ c.seconds, Pointed ds
  chars : ∃ clock, ClockDivides c.hours c.minutes c.seconds clock ∧
    cs = 'P' :: (groupChars 'Y' c.years ++ (groupChars 'M' c.months ++
      (groupChars 'W' c.weeks ++ (groupChars 'D' c.days ++ clock))))

/-- **What is captured** divides the text, and nothing else does. -/
theorem captures?_eq_some {cs : List Char} {c : Captures} :
    captures? cs = some c ↔ c.Divides cs := by
  constructor
  · intro hc
    unfold captures? at hc
    split at hc
    · rename_i cs
      obtain ⟨y, r₁, hy, rfl, hy'⟩ := exists_group? 'Y' cs
      obtain ⟨mo, r₂, hmo, rfl, hmo'⟩ := exists_group? 'M' r₁
      obtain ⟨w, r₃, hw, rfl, hw'⟩ := exists_group? 'W' r₂
      obtain ⟨d, r₄, hd, rfl, hd'⟩ := exists_group? 'D' r₃
      simp only [hy, hmo, hw, hd] at hc
      obtain ⟨⟨h, mi, x⟩, hclock, rfl⟩ := Option.map_eq_some_iff.1 hc
      obtain ⟨hh, hmi, hx, hclock⟩ := clockGroups?_eq_some.1 hclock
      refine ⟨?_, hx, r₄, hclock, rfl⟩
      simp only [List.forall_mem_cons]
      exact ⟨hy', hmo', hw', hd', hh, hmi, by simp⟩
    · cases hc
  · rintro ⟨hdigits, hx, clock, hclock, rfl⟩
    simp only [List.forall_mem_cons] at hdigits
    obtain ⟨hy, hmo, hw, hd, hh, hmi, -⟩ := hdigits
    have hdays := hclock.letter_ne (u := 'D') (by decide)
    have hweeks : letter (groupChars 'D' c.days ++ clock) ≠ some 'W' :=
      letter_groupChars hd (by decide) (by decide) (hclock.letter_ne (by decide))
    have hmonths : letter (groupChars 'W' c.weeks ++ (groupChars 'D' c.days ++ clock)) ≠ some 'M' :=
      letter_groupChars hw (by decide) (by decide)
        (letter_groupChars hd (by decide) (by decide) (hclock.letter_ne (by decide)))
    have hyears : letter (groupChars 'M' c.months ++ (groupChars 'W' c.weeks ++
        (groupChars 'D' c.days ++ clock))) ≠ some 'Y' :=
      letter_groupChars hmo (by decide) (by decide) (letter_groupChars hw (by decide) (by decide)
        (letter_groupChars hd (by decide) (by decide) (hclock.letter_ne (by decide))))
    simp only [captures?, group?_groupChars hy (by decide) hyears,
      group?_groupChars hmo (by decide) hmonths, group?_groupChars hw (by decide) hweeks,
      group?_groupChars hd (by decide) hdays, clockGroups?_eq_some.2 ⟨hh, hmi, hx, hclock⟩,
      Option.map_some]

end Conform.Duration
