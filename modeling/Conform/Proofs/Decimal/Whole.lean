import Conform.Proofs.Decimal.Reading

/-!
# The texts of whole numbers

A whole number is written with a minus or without, and then with at least one decimal digit; zeros in
front are as good as none. The reader takes these texts and no others, and of them those whose number
has 64 bits with a sign. What it reads is the number in the place-value sense, whatever the length of
the text.

* `WholeNumeral`: a whole number as it is written, with its text and its value;
* `Text.natOfDigits_eq`: digits taken in from the left write the sum of their places;
* `WholeNumeral.parseInt?_text`: what is read of a text that is written in this way;
* `WholeNumeral.exists_text`: what is read was written in this way;
* `integer_exact`: the main statement.
-/

namespace Conform

/-- Digits that are taken in from the left write the sum of their places: the last digit counts once,
the one before it ten times, and so on. -/
theorem Text.natOfDigits_eq (ds : List Char) :
    natOfDigits ds = Nat.ofDigits 10 (ds.reverse.map digitVal) := by
  induction ds with
  | nil => rfl
  | cons c ds ih =>
    rw [natOfDigits_cons, ih, List.reverse_cons, List.map_append, Nat.ofDigits_append,
      List.length_map, List.length_reverse, List.map_singleton, Nat.ofDigits_singleton, Nat.add_comm]

/-! ## Whole numbers as they are written -/

/-- A whole number as it is written: a minus or none, and at least one of the ten digits. -/
structure WholeNumeral where
  minus : Bool
  digits : List Char
  nonempty : digits ≠ []
  decimal : ∀ c ∈ digits, '0' ≤ c ∧ c ≤ '9'

namespace WholeNumeral

/-- The characters that are written. -/
def chars (w : WholeNumeral) : List Char := if w.minus then '-' :: w.digits else w.digits

/-- The text that is written. -/
def text (w : WholeNumeral) : String := String.ofList w.chars

/-- The sum of the digits, each at its place. -/
def magnitude (w : WholeNumeral) : Nat :=
  Nat.ofDigits 10 (w.digits.reverse.map fun c => c.toNat - '0'.toNat)

/-- The number that is written. -/
def value (w : WholeNumeral) : Int := if w.minus then -(w.magnitude : Int) else w.magnitude

theorem isDigit_iff {c : Char} : c.isDigit = true ↔ '0' ≤ c ∧ c ≤ '9' := by
  simp only [Char.isDigit, Bool.and_eq_true, decide_eq_true_eq]
  exact Iff.rfl

variable (w : WholeNumeral)

/-- The parts that a minus is split into make up the whole. -/
theorem append_splitMinus (cs : List Char) :
    (if (splitMinus cs).1 then '-' :: (splitMinus cs).2 else (splitMinus cs).2) = cs := by
  unfold splitMinus
  split <;> rfl

/-- The minus that is split off is the one that is written: no digit looks like it. -/
theorem splitMinus_chars : splitMinus w.chars = (w.minus, w.digits) := by
  rw [chars]
  split
  · rename_i hminus
    rw [hminus]
    rfl
  · rename_i hminus
    obtain ⟨c, ds, hds⟩ := List.exists_cons_of_ne_nil w.nonempty
    have hc : c ≠ '-' := by
      rintro rfl
      exact absurd (w.decimal '-' (by simp [hds])) (by decide)
    rw [hds, Bool.eq_false_iff.2 hminus]
    unfold splitMinus
    split
    · rename_i heq
      exact absurd (List.cons.inj heq).1 hc
    · rfl

/-- **What is written is read**, if it fits. -/
theorem parseInt?_text : parseInt? w.text = whole? w.value := by
  have hempty : w.digits.isEmpty = false := by simp [w.nonempty]
  have hall : w.digits.all Char.isDigit = true :=
    List.all_eq_true.2 fun c hc => isDigit_iff.2 (w.decimal c hc)
  have hvalue : (Text.natOfDigits w.digits : Int) = w.magnitude := by
    rw [Text.natOfDigits_eq]
    rfl
  rw [parseInt?_eq, text, String.toList_ofList, splitMinus_chars]
  simp only [hempty, hall, Bool.not_true, Bool.or_false, Bool.false_eq_true, if_false, hvalue]
  rfl

/-- **What is read was written in this way.** -/
theorem exists_text {s : String} {n : Int64} (h : parseInt? s = some n) :
    ∃ w : WholeNumeral, w.text = s := by
  rw [parseInt?_eq] at h
  dsimp only at h
  split at h
  · cases h
  rename_i hds
  obtain ⟨hne, hds⟩ : (splitMinus s.toList).2 ≠ [] ∧
    ∀ c ∈ (splitMinus s.toList).2, c.isDigit = true := by simpa using hds
  refine ⟨⟨(splitMinus s.toList).1, _, hne, fun c hc => isDigit_iff.1 (hds c hc)⟩, ?_⟩
  rw [← String.toList_inj, text, String.toList_ofList]
  exact append_splitMinus s.toList

/-- The usual numeral of a whole number: a minus below zero, and no zeros in front. -/
def ofInt (i : Int) : WholeNumeral where
  minus := decide (i < 0)
  digits := Nat.toDigits 10 i.natAbs
  nonempty := Nat.toDigits_ne_nil
  decimal _ hc := isDigit_iff.1 (Nat.isDigit_of_mem_toDigits (by decide) (by decide) hc)

theorem text_ofInt (i : Int) : (ofInt i).text = toString i := by
  cases i with
  | ofNat m =>
    have hsign : ¬ Int.ofNat m < 0 := Int.not_lt.2 (Int.natCast_nonneg m)
    simp only [text, chars, ofInt, hsign, decide_false, Bool.false_eq_true, if_false]
    rfl
  | negSucc m =>
    have hsign : Int.negSucc m < 0 := Int.negSucc_lt_zero m
    rw [← String.toList_inj]
    simp only [text, chars, ofInt, hsign, decide_true, if_true, String.toList_ofList]
    have hrepr : (toString (Int.negSucc m)).toList = '-' :: (Nat.repr (m + 1)).toList :=
      String.toList_append
    rw [hrepr, Nat.repr, String.toList_ofList]
    rfl

theorem value_ofInt (i : Int) : (ofInt i).value = i := by
  have hmagnitude : (ofInt i).magnitude = i.natAbs := by
    have hdigits := Text.natOfDigits_eq (Nat.toDigits 10 i.natAbs)
    rw [Text.natOfDigits_toDigits] at hdigits
    exact hdigits.symm
  rw [value, hmagnitude]
  simp only [ofInt, decide_eq_true_eq]
  split <;> omega

end WholeNumeral

/-! ## Main statement -/

/-- **Whole numbers are read exactly.** A text reads as the number `i` if it is an optional minus and at
least one decimal digit, nothing before, between or behind them, and `i` is the number so written and has
64 bits with a sign. The text in which a value of this kind is printed is the usual numeral, and it reads
as the value. -/
theorem integer_exact :
    (∀ (s : String) (i : Int), (parseInt? s).map Int64.toInt = some i ↔
      ∃ w : WholeNumeral, w.text = s ∧ w.value = i ∧ -2 ^ 63 ≤ i ∧ i ≤ 2 ^ 63 - 1) ∧
    ∀ n : Int64, (Value.int n).text = toString n.toInt ∧ parseInt? (toString n.toInt) = some n := by
  refine ⟨fun s i => ⟨fun h => ?_, ?_⟩, fun n => ⟨rfl, ?_⟩⟩
  · obtain ⟨n, hn, rfl⟩ := Option.map_eq_some_iff.1 h
    obtain ⟨w, rfl⟩ := WholeNumeral.exists_text hn
    rw [w.parseInt?_text] at hn
    have hlo := n.le_toInt
    have hhi := n.toInt_lt
    exact ⟨w, rfl, ((whole?_eq_some_iff _ _).1 hn).symm, hlo, by omega⟩
  · rintro ⟨w, rfl, rfl, hlo, hhi⟩
    have hfits : (Int64.ofInt w.value).toInt = w.value :=
      Int64.toInt_ofInt_of_le hlo (by omega)
    rw [w.parseInt?_text, (whole?_eq_some_iff _ _).2 hfits, Option.map_some, hfits]
  · rw [← WholeNumeral.text_ofInt, WholeNumeral.parseInt?_text, WholeNumeral.value_ofInt]
    exact (whole?_eq_some_iff _ _).2 rfl

example : parseInt? "-0009223372036854775808" = some Int64.minValue := by decide

example : parseInt? "9223372036854775808" = none := by decide

end Conform
