import Conform.Proofs.Coerce
import Conform.Proofs.Duration.Text

/-!
# Numbers of texts beyond the range

A text that is read as a binary number has to be finite. The seconds of a duration do not: from `limit` on
they are infinite, the duration is accepted, and its text has a letter that no duration has.

* `Spelling.Shows.seconds_cases`: the seconds of a duration that was read;
* `Spelling.Shows.parse?_text_eq`: whether its text is read again;
* `accepted_finite`: the main statement, and `infinite_seconds`, a text that is accepted with infinite
  seconds.
-/

namespace Conform.Duration

open Binary

/-- The seconds that are written; zero if there are none. -/
def Spelling.secondsValue (w : Spelling) : ℚ := w.seconds.elim 0 fun x => x.numeral.value

/-- The seconds of a duration that was read: below the limit the duration can be written, and from there
on they are infinite. -/
theorem Spelling.Shows.seconds_cases {w : Spelling} {d : Duration} (h : w.Shows d) :
    (w.secondsValue < limit ∧ d.seconds.isFinite = true ∧ d.Writable) ∨
      (limit ≤ w.secondsValue ∧ d.seconds = infinity) := by
  have hseconds := h.seconds
  rw [Spelling.secondsValue]
  cases hw : w.seconds with
  | none =>
    rw [hw] at hseconds
    have hzero : d.seconds = 0 := (Option.some.inj hseconds).symm
    rw [hzero]
    exact Or.inl ⟨limit_pos, rfl, Or.inl hzero⟩
  | some x =>
    rw [hw] at hseconds
    have hfloat : x.numeral.toFloat = d.seconds := Option.some.inj (x.value?_eq.symm.trans hseconds)
    rw [← hfloat]
    rcases Numeral.cases_toFloat (n := x.numeral) rfl with ⟨hlt, hfinite, hsign⟩ | hinfinite
    · rw [hfloat] at hfinite hsign
      refine Or.inl ⟨hlt, hfloat ▸ hfinite, hsign.imp_right fun hpos => ⟨hpos, hfinite⟩⟩
    · exact Or.inr hinfinite

/-! ## The letter that is missing -/

theorem Figure.notMem_chars (n : Figure) : 'i' ∉ n.chars := by
  intro h
  cases n.digits 'i' h

theorem notMem_unitChars {u : Char} (hu : 'i' ≠ u) (n : Option Figure) : 'i' ∉ unitChars u n := by
  cases n with
  | none => simp [unitChars]
  | some n => simp [unitChars, n.notMem_chars, hu]

theorem notMem_secondsChars (x : Option Seconds) : 'i' ∉ secondsChars x := by
  obtain _ | ⟨whole, _ | f⟩ := x
  · simp [secondsChars]
  · simp [secondsChars, Seconds.chars, fractionChars, whole.notMem_chars]
  · simp [secondsChars, Seconds.chars, fractionChars, whole.notMem_chars, f.notMem_chars]

/-- A letter that no duration has. -/
theorem Spelling.notMem_text (w : Spelling) : 'i' ∉ w.text.toList := by
  have hclock : 'i' ∉ clockChars w.hours w.minutes w.seconds := by
    rw [clockChars]
    split
    · simp [notMem_unitChars, notMem_secondsChars]
    · simp
  simp [Spelling.text, Spelling.chars, notMem_unitChars, hclock]

/-- It is in the text of infinite seconds. -/
theorem mem_text_of_infinity {d : Duration} (h : d.seconds = infinity) : 'i' ∈ d.text.toList := by
  have hclock : 'i' ∈ d.clockText.toList := by
    have hpos : 0 < infinity := by decide
    have hmem : 'i' ∈ (secondsLayout.text infinity).toList := by decide
    rw [clockText, h, if_pos (Or.inr (Or.inr hpos)), if_pos hpos]
    simp [hmem]
  simp [toList_text, hclock]

/-! ## Reading again -/

/-- The text of a duration that was read is read again unless the seconds are infinite. -/
theorem Spelling.Shows.parse?_text_eq {w : Spelling} {d : Duration} (h : w.Shows d) :
    parse? d.text = if d.seconds.isFinite then some d else none := by
  rcases h.seconds_cases with ⟨-, hfinite, hwritable⟩ | ⟨-, hinfinite⟩
  · obtain ⟨w', htext, hshows⟩ := exists_spelling_text hwritable
    rw [if_pos hfinite, ← htext]
    exact w'.parse?_text.2 hshows
  · have hnot : d.seconds.isFinite = false := by
      rw [hinfinite]
      rfl
    rw [hnot, if_neg (by decide), Option.eq_none_iff_forall_ne_some]
    intro e he
    obtain ⟨w', htext⟩ := exists_spelling he
    have hmem := mem_text_of_infinity hinfinite
    rw [← htext] at hmem
    exact w'.notMem_text hmem

/-- Whole seconds from the limit on. -/
theorem parse?_vast {n : ℕ} (hn : limit ≤ n) :
    parse? ("PT" ++ toString n ++ "S") = some ⟨0, 0, 0, 0, 0, 0, infinity⟩ := by
  let x : Seconds := ⟨.ofNat n, none⟩
  let w : Spelling := ⟨none, none, none, none, none, none, some x, by simp⟩
  have htext : w.text = "PT" ++ toString n ++ "S" := by
    refine String.toList_inj.1 ?_
    simp [w, x, Spelling.text, Spelling.chars, clockChars, unitChars, secondsChars, Seconds.chars,
      fractionChars, Figure.ofNat]
  have hvalue : x.numeral.value = n := by
    simp [x, Numeral.value, Seconds.numeral, Figure.ofNat, Text.natOfDigits_toDigits]
  have hfloat : x.numeral.toFloat = infinity := by
    rcases Numeral.cases_toFloat (n := x.numeral) rfl with ⟨hlt, -⟩ | ⟨-, h⟩
    · rw [hvalue] at hlt
      exact absurd hlt (not_lt.2 hn)
    · exact h
  rw [← htext]
  exact w.parse?_text.2 ⟨rfl, rfl, rfl, rfl, rfl, rfl, x.value?_eq.trans (congrArg some hfloat)⟩

end Conform.Duration

namespace Conform

open Binary

/-- **What is accepted of texts.** A text that is accepted as a binary number is finite, and so its
document is not null. A text that is accepted as a duration has finite seconds exactly if what is written
for them is below the limit, which lies half a step above the greatest binary number; and exactly then the
text of the duration is accepted again. -/
theorem accepted_finite (s : String) (v : Value) :
    (coerce .float (.str s) = .ok v → ∃ x, v = .float x ∧ x.isFinite = true ∧ v.toJson ≠ .null) ∧
    (coerce .duration (.str s) = .ok v → ∃ (w : Duration.Spelling) (d : Duration),
      w.text = s ∧ v = .duration d ∧ v.toJson = .str d.text ∧
      (d.seconds.isFinite = true ↔ w.secondsValue < 2 ^ 1024 - 2 ^ 970) ∧
      coerce .duration (.str d.text) =
        if d.seconds.isFinite then .ok v else .error (Coerce.unreadable .duration (.str d.text))) := by
  constructor
  · intro h
    obtain ⟨x, hx, rfl⟩ := Coerce.reading_eq_ok.1 h
    obtain ⟨n, -, hfinite, rfl⟩ := parseFloat?_eq_some.1 hx
    refine ⟨_, rfl, hfinite, ?_⟩
    simp [Value.toJson, Value.floatJson, Number.ofFloat?, hfinite]
  · intro h
    obtain ⟨d, hd, rfl⟩ := Coerce.reading_eq_ok.1 h
    obtain ⟨w, rfl⟩ := Duration.exists_spelling hd
    have hshows := w.parse?_text.1 hd
    refine ⟨w, d, rfl, rfl, rfl, ?_, ?_⟩
    · rcases hshows.seconds_cases with ⟨hlt, hfinite, -⟩ | ⟨hle, hinfinite⟩
      · exact iff_of_true hfinite hlt
      · rw [hinfinite]
        exact iff_of_false (by decide) (not_lt.2 hle)
    · rw [coerce, hshows.parse?_text_eq]
      split <;> rfl

/-- Seconds with a fraction, far below the limit. -/
theorem accepted_finite_seconds :
    coerce .duration (.str "PT1.5S") = .ok (.duration ⟨0, 0, 0, 0, 0, 0, 1.5⟩) ∧
      ∃ w : Duration.Spelling, w.text = "PT1.5S" ∧ w.secondsValue < 2 ^ 1024 - 2 ^ 970 := by
  have h : coerce .duration (.str "PT1.5S") = .ok (.duration ⟨0, 0, 0, 0, 0, 0, 1.5⟩) := by rfl
  obtain ⟨w, d, hw, hd, -, hfinite, -⟩ := (accepted_finite "PT1.5S" _).2 h
  obtain rfl := Value.duration.inj hd
  exact ⟨h, w, hw, hfinite.1 (by decide)⟩

/-- **Infinite seconds are accepted**, and the text of the duration is not. -/
theorem infinite_seconds :
    coerce .duration (.str ("PT" ++ toString (10 ^ 309 : ℕ) ++ "S")) =
      .ok (.duration ⟨0, 0, 0, 0, 0, 0, infinity⟩) ∧ infinity.isFinite = false ∧
    (Value.duration ⟨0, 0, 0, 0, 0, 0, infinity⟩).toJson = .str "PTinfS" ∧
    coerce .duration (.str "PTinfS") = .error (Coerce.unreadable .duration (.str "PTinfS")) := by
  have hlimit : limit ≤ (10 ^ 309 : ℕ) := by
    have hpow : 2 ^ 1024 ≤ 10 ^ 309 := by decide +kernel
    calc limit ≤ 2 ^ 1024 := sub_le_self _ (by positivity)
      _ ≤ (10 ^ 309 : ℕ) := by exact_mod_cast hpow
  refine ⟨?_, rfl, rfl, rfl⟩
  rw [coerce, Duration.parse?_vast hlimit]
  rfl

end Conform
