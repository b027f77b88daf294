import Conform.Failure
import Mathlib.Data.List.TakeWhile

/-!
# Paths told apart by their texts

In the text of a path the steps stand one behind the other, and nothing marks the end of a name. The
text can still be taken apart when the names are ordinary: a step begins with a point or a bracket, so a
name that has neither ends where the next step begins, and an index ends with its digits. A name that is
not empty also keeps a single point for the value itself.

* `Segment.Ordinary`, `Path.Ordinary`: steps and paths with ordinary names;
* `append_inj_of_run`: where a run of characters ends;
* `Segment.append_inj`: the first step of a text and what follows it;
* `Path.text_unambiguous`: the main statement.
-/

namespace Conform

/-- A text is a run of characters of one class, and a rest that does not begin with one, in one way
only. -/
theorem append_inj_of_run {P : Char → Bool} {a b r s : List Char} (ha : ∀ c ∈ a, P c = true)
    (hb : ∀ c ∈ b, P c = true) (hr : ∀ c ∈ r.head?, P c = false) (hs : ∀ c ∈ s.head?, P c = false)
    (h : a ++ r = b ++ s) : a = b ∧ r = s := by
  have hrun : ∀ {a r : List Char}, (∀ c ∈ a, P c = true) → (∀ c ∈ r.head?, P c = false) →
      (a ++ r).takeWhile P = a := by
    intro a r ha hr
    rw [List.takeWhile_append_of_pos ha]
    cases r with
    | nil => simp
    | cons c r => simp [hr c rfl]
  have hab : a = b := by rw [← hrun ha hr, h, hrun hb hs]
  rw [hab] at h
  exact ⟨hab, List.append_cancel_left h⟩

/-! ## Steps -/

namespace Segment

/-- Does a step begin with this character? -/
def opens (c : Char) : Bool := c == '.' || c == '['

/-- A step whose name, if it has one, is not empty and has no character in it with which a step
begins. -/
def Ordinary : Segment → Prop
  | .field n => n ≠ "" ∧ '.' ∉ n.toList ∧ '[' ∉ n.toList
  | .index _ => True

instance : DecidablePred Ordinary
  | .field n => inferInstanceAs (Decidable (n ≠ "" ∧ '.' ∉ n.toList ∧ '[' ∉ n.toList))
  | .index _ => inferInstanceAs (Decidable True)

theorem toList_text_field (n : String) : (field n).text.toList = '.' :: n.toList := by
  simp [text]

theorem toList_text_index (i : Nat) : (index i).text.toList = '[' :: (Nat.toDigits 10 i ++ [']']) := by
  simp [text]

/-- A step begins with one of its two characters. -/
theorem exists_text_eq_cons (s : Segment) : ∃ c cs, opens c = true ∧ s.text.toList = c :: cs := by
  cases s with
  | field n => exact ⟨'.', _, rfl, toList_text_field n⟩
  | index i => exact ⟨'[', _, rfl, toList_text_index i⟩

theorem Ordinary.not_opens {n : String} (h : (field n).Ordinary) : ∀ c ∈ n.toList, (!opens c) = true := by
  intro c hc
  obtain ⟨-, hpoint, hbracket⟩ := h
  have hpoint : c ≠ '.' := fun he => hpoint (he ▸ hc)
  have hbracket : c ≠ '[' := fun he => hbracket (he ▸ hc)
  simp [opens, hpoint, hbracket]

/-- **The first step.** Two texts that begin with ordinary steps, and go on with a step or not at all,
begin with the same step and go on in the same way. -/
theorem append_inj {s t : Segment} (hs : s.Ordinary) (ht : t.Ordinary) {r r' : List Char}
    (hr : ∀ c ∈ r.head?, opens c = true) (hr' : ∀ c ∈ r'.head?, opens c = true)
    (h : s.text.toList ++ r = t.text.toList ++ r') : s = t ∧ r = r' := by
  cases s with
  | field n =>
    rw [toList_text_field, List.cons_append] at h
    cases t with
    | field m =>
      rw [toList_text_field, List.cons_append] at h
      have hrun := append_inj_of_run hs.not_opens ht.not_opens (by simpa using hr) (by simpa using hr')
        (List.cons.inj h).2
      exact ⟨congrArg field (String.toList_inj.1 hrun.1), hrun.2⟩
    | index j =>
      rw [toList_text_index, List.cons_append] at h
      exact absurd (List.cons.inj h).1 (by decide)
  | index i =>
    rw [toList_text_index, List.cons_append] at h
    cases t with
    | field m =>
      rw [toList_text_field, List.cons_append] at h
      exact absurd (List.cons.inj h).1 (by decide)
    | index j =>
      rw [toList_text_index, List.cons_append, List.append_assoc, List.append_assoc] at h
      have hdigits : ∀ n, ∀ c ∈ Nat.toDigits 10 n, c.isDigit = true :=
        fun _ _ hc => Nat.isDigit_of_mem_toDigits (by decide) (by decide) hc
      -- the digits end at the bracket, whatever stands behind it
      have hrun := append_inj_of_run (hdigits i) (hdigits j) (by simp) (by simp) (List.cons.inj h).2
      have hij : i = j := by
        rw [← Nat.ofDigitChars_ten_toDigits (n := i), hrun.1, Nat.ofDigitChars_ten_toDigits]
      exact ⟨congrArg index hij, List.append_cancel_left hrun.2⟩

end Segment

/-! ## Paths -/

namespace Path

open Segment (opens)

/-- All names in the path are ordinary. -/
def Ordinary (p : Path) : Prop := ∀ s ∈ p, s.Ordinary

instance : DecidablePred Ordinary := fun p => inferInstanceAs (Decidable (∀ s ∈ p, s.Ordinary))

/-- The characters of the steps. -/
def chars (p : Path) : List Char := p.flatMap (·.text.toList)

theorem toList_text {p : Path} (hp : p ≠ []) : p.text.toList = chars p := by
  cases p with
  | nil => exact absurd rfl hp
  | cons s p => simp [text, chars, String.toList_join, List.flatMap_map]

/-- What follows a step is nothing, or a step. -/
theorem opens_of_mem_head? (p : Path) : ∀ c ∈ (chars p).head?, opens c = true := by
  cases p with
  | nil => simp [chars]
  | cons s p =>
    obtain ⟨c, cs, hc, hcs⟩ := s.exists_text_eq_cons
    simp [chars, hcs, hc]

theorem chars_eq_nil {p : Path} : chars p = [] ↔ p = [] := by
  cases p with
  | nil => simp [chars]
  | cons s p =>
    obtain ⟨c, cs, -, hcs⟩ := s.exists_text_eq_cons
    simp [chars, hcs]

/-- **The run.** The steps are taken off one after the other, from both paths at once. -/
theorem chars_inj {p q : Path} (hp : p.Ordinary) (hq : q.Ordinary) (h : chars p = chars q) : p = q := by
  induction p generalizing q with
  | nil => exact (chars_eq_nil.1 h.symm).symm
  | cons s p ih =>
    cases q with
    | nil => exact chars_eq_nil.1 h
    | cons t q =>
      obtain ⟨hs, hp⟩ := List.forall_mem_cons.1 hp
      obtain ⟨ht, hq⟩ := List.forall_mem_cons.1 hq
      have hfirst := Segment.append_inj hs ht (opens_of_mem_head? p) (opens_of_mem_head? q) h
      rw [hfirst.1, ih hp hq hfirst.2]

/-- A single point is no step: what stands behind it is no ordinary name. -/
theorem chars_ne_point {p : Path} (hp : p.Ordinary) : chars p ≠ ['.'] := by
  intro h
  cases p with
  | nil => cases h
  | cons s p =>
    have hs := hp s List.mem_cons_self
    rw [chars, List.flatMap_cons] at h
    cases s with
    | field n =>
      rw [Segment.toList_text_field, List.cons_append, List.cons.injEq, List.append_eq_nil_iff] at h
      exact hs.1 (String.toList_eq_nil_iff.1 h.2.1)
    | index i =>
      rw [Segment.toList_text_index, List.cons_append] at h
      exact absurd (List.cons.inj h).1 (by decide)

theorem text_eq_point_iff {p : Path} (hp : p.Ordinary) : p.text = "." ↔ p = [] := by
  constructor
  · intro h
    by_contra hne
    refine chars_ne_point hp ?_
    rw [← toList_text hne, h]
    rfl
  · rintro rfl
    rfl

/-! ## Main statement -/

/-- **Paths are told apart by their texts**, however long they are, if no name in them is empty or has a
point or an opening bracket in it; and of these paths only the one to the value itself has a single
point for its text. -/
theorem text_unambiguous {p q : Path} (hp : p.Ordinary) (hq : q.Ordinary) :
    (p.text = q.text ↔ p = q) ∧ (p.text = "." ↔ p = []) := by
  refine ⟨⟨fun h => ?_, congrArg text⟩, text_eq_point_iff hp⟩
  by_cases hp0 : p = []
  · subst hp0
    exact ((text_eq_point_iff hq).1 h.symm).symm
  by_cases hq0 : q = []
  · subst hq0
    exact (text_eq_point_iff hp).1 h
  have hchars : chars p = chars q := by rw [← toList_text hp0, ← toList_text hq0, h]
  exact chars_inj hp hq hchars

/-- Digits and closing brackets in names, and one index of two digits beside two of one digit. -/
theorem text_unambiguous_rows :
    let p : Path := [.field "2]", .index 1, .index 2, .field "rows"]
    let q : Path := [.field "2]", .index 12, .field "rows"]
    (p.Ordinary ∧ q.Ordinary) ∧ p.text ≠ q.text ∧ p.text ≠ "." := by
  intro p q
  have hp : p.Ordinary := by decide
  have hq : q.Ordinary := by decide
  have h := text_unambiguous hp hq
  exact ⟨⟨hp, hq⟩, mt h.1.1 (by decide), mt h.2.1 (by decide)⟩

-- other names do not keep paths apart
example : Path.text [.field "a.b"] = Path.text [.field "a", .field "b"] := by decide
example : Path.text [.field ""] = Path.text [] := by decide

end Path

end Conform
