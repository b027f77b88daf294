import Conform.Coerce

/-!
# What coercion makes of a value

* `coerce_cases`: a coercion leaves the value as it is, reads it from a text, widens a whole number
  or narrows a date with a time to the date;
* `coerce_eq_error`: it fails on a value of the wrong sort and on a text that does not read;
* `coerce_of_holds`: a value of the kind stays as it is;
* `coerce_of_coerce`: a second kind accepts the output only if it accepted the input, with the same
  outcome; the exceptions are a whole number that was read from a text and now widens, and a date with
  a time that was read from a text and now narrows.
-/

namespace Conform

namespace Kind

/-- A value of a kind; every value is of the kind `any`. -/
def Holds (k : Kind) (v : Value) : Prop := k = .any ∨ Kind.of v = k

/-- The kinds that texts are read as. -/
def readable : List Kind := [.bool, .int, .float, .dateTime, .date, .duration]

/-- The first kind may be tried before the second: it accepts nothing that a text reads as for the
second, unless it accepts the text. -/
def MayPrecede (a b : Kind) : Prop := ¬ (a = .float ∧ b = .int) ∧ ¬ (a = .date ∧ b = .dateTime)

end Kind

namespace Coerce

variable {k k' : Kind} {v o p : Value}

theorem reading_eq_ok {α : Type} {s : String} {make : α → Value} {r : Option α} :
    reading k s make r = .ok o ↔ ∃ a, r = some a ∧ make a = o := by
  cases r <;> simp [reading]

/-- **What a coercion can do.** -/
theorem coerce_cases (h : coerce k v = .ok o) : (o = v ∧ k.Holds v) ∨
    ((∃ s, v = .str s) ∧ Kind.of o = k ∧ k ∈ Kind.readable) ∨
    (∃ n, v = .int n ∧ k = .float ∧ o = .float (Value.widen n)) ∨
    (∃ d, v = .dateTime d ∧ k = .date ∧ o = .date d.date) := by
  -- in the order of the definition: `same` where the value is of the kind, `read` where it is a text
  have same : ∀ {w : Value}, Except.ok w = (.ok o : Except CoerceError Value) → k.Holds w →
      v = w → o = v ∧ k.Holds v := by
    rintro w hw hk rfl
    obtain rfl := Except.ok.inj hw
    exact ⟨rfl, hk⟩
  have read : ∀ {α : Type} {s : String} {make : α → Value} {r : Option α},
      reading k s make r = .ok o → (∀ a, Kind.of (make a) = k) → k ∈ Kind.readable → v = .str s →
      (∃ s, v = .str s) ∧ Kind.of o = k ∧ k ∈ Kind.readable := by
    intro α s make r hr hmake hk hv
    obtain ⟨a, -, rfl⟩ := reading_eq_ok.1 hr
    exact ⟨⟨s, hv⟩, hmake a, hk⟩
  unfold coerce at h
  split at h
  · exact Or.inl (same h (Or.inl rfl) rfl)
  · exact Or.inl (same h (Or.inr rfl) rfl)
  · exact Or.inl (same h (Or.inr rfl) rfl)
  · rename_i s
    refine Or.inr (Or.inl ⟨⟨s, rfl⟩, ?_, by decide⟩)
    split at h
    · obtain rfl := Except.ok.inj h
      rfl
    · split at h
      · obtain rfl := Except.ok.inj h
        rfl
      · simp at h
  · exact Or.inl (same h (Or.inr rfl) rfl)
  · exact Or.inr (Or.inl (read h (fun _ => rfl) (by decide) rfl))
  · exact Or.inl (same h (Or.inr rfl) rfl)
  · exact Or.inr (Or.inr (Or.inl ⟨_, rfl, rfl, (Except.ok.inj h).symm⟩))
  · exact Or.inr (Or.inl (read h (fun _ => rfl) (by decide) rfl))
  · exact Or.inl (same h (Or.inr rfl) rfl)
  · exact Or.inl (same h (Or.inr rfl) rfl)
  · exact Or.inr (Or.inl (read h (fun _ => rfl) (by decide) rfl))
  · exact Or.inl (same h (Or.inr rfl) rfl)
  · exact Or.inr (Or.inr (Or.inr ⟨_, rfl, rfl, (Except.ok.inj h).symm⟩))
  · exact Or.inr (Or.inl (read h (fun _ => rfl) (by decide) rfl))
  · exact Or.inl (same h (Or.inr rfl) rfl)
  · exact Or.inr (Or.inl (read h (fun _ => rfl) (by decide) rfl))
  · simp at h

/-- **How a coercion can fail**: the value is of the wrong sort, or it is a text that does not read as
the kind. -/
theorem coerce_eq_error {x : CoerceError} (h : coerce k v = .error x) :
    x = mismatch k v ∨ (∃ s, v = .str s) ∧ x = unreadable k v := by
  have read : ∀ {α : Type} {s : String} {make : α → Value} {r : Option α},
      reading k s make r = .error x → v = .str s → (∃ s, v = .str s) ∧ x = unreadable k v := by
    rintro α s make (_ | a) hr rfl
    · exact ⟨⟨s, rfl⟩, (Except.error.inj hr).symm⟩
    · cases hr
  unfold coerce at h
  -- the rows of the definition, by number: the texts first, then the last row, and all others succeed
  split at h
  case h_4 s =>
    split at h
    · cases h
    · split at h
      · cases h
      · exact Or.inr ⟨⟨s, rfl⟩, (Except.error.inj h).symm⟩
  case h_6 | h_9 | h_12 | h_15 | h_17 => exact Or.inr (read h rfl)
  case h_18 => exact Or.inl (Except.error.inj h).symm
  all_goals cases h

/-- The output of a coercion is of the kind that was asked for. -/
theorem holds_of_ok (h : coerce k v = .ok o) : k.Holds o := by
  rcases coerce_cases h with ⟨rfl, hk⟩ | ⟨-, hk, -⟩ | ⟨n, -, rfl, rfl⟩ | ⟨d, -, rfl, rfl⟩
  · exact hk
  · exact Or.inr hk
  · exact Or.inr rfl
  · exact Or.inr rfl

/-- A value of the kind stays as it is. -/
theorem coerce_of_holds (h : k.Holds v) : coerce k v = .ok v := by
  rcases h with rfl | rfl
  · simp [coerce]
  · cases v <;> simp [coerce, Kind.of]

/-- A text is the output only of that very text. -/
theorem eq_of_coerce_str {s : String} (h : coerce k v = .ok (.str s)) : v = .str s := by
  rcases coerce_cases h with ⟨hv, -⟩ | ⟨-, rfl, hk⟩ | ⟨n, -, -, hn⟩ | ⟨d, -, -, hd⟩
  · exact hv.symm
  · simp [Kind.of, Kind.readable] at hk
  · simp at hn
  · simp at hd

/-- **A second kind.** What another kind makes of the output it makes of the input, unless it widens
a whole number or narrows a date with a time. -/
theorem coerce_of_coerce (h : coerce k v = .ok o) (hk : k'.MayPrecede k) (hany : k' ≠ .any)
    (h' : coerce k' o = .ok p) : coerce k' v = .ok p := by
  rcases holds_of_ok h with rfl | hko
  · obtain rfl : v = o := by simpa [coerce] using h
    exact h'
  rcases coerce_cases h' with ⟨rfl, hk' | hk'⟩ | ⟨⟨s, rfl⟩, -, -⟩ | ⟨n, rfl, rfl, -⟩ | ⟨d, rfl, rfl, -⟩
  · exact absurd hk' hany
  · rw [← hk', hko]
    exact h
  · rw [eq_of_coerce_str h]
    exact h'
  · exact absurd ⟨rfl, hko.symm⟩ hk.1
  · exact absurd ⟨rfl, hko.symm⟩ hk.2

end Coerce

end Conform
