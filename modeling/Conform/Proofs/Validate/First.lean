import Conform.Proofs.Validate.Parts

/-!
# The first part that fails

Parts are validated one after the other, and the first that fails ends it: the failure of a list, of a
record or of a union is that of one of its parts, and no part before it fails. Again the outcomes of the
parts themselves stay abstract.

* `First fails l x`: the first of the parts `l` that fails, fails with `x`;
* `bind_eq_first`: a loop that runs the first part and then the rest;
* `items_eq_error`, `walkFields_eq_error`, `walkExtras_eq_error`: the loops, one by one;
* `walk_array_error_iff`, `walk_record_error_iff`: lists and records.
-/

namespace Conform.Validate

open Entries (keys)

/-! ## The first of the parts -/

section First

variable {α : Type} {fails : α → Failure → Prop} {a : α} {l : List α} {x : Failure}

/-- The first of the parts that fails, fails with `x`. -/
def First (fails : α → Failure → Prop) (l : List α) (x : Failure) : Prop :=
  ∃ before a after, l = before ++ a :: after ∧ (∀ b ∈ before, ∀ y, ¬ fails b y) ∧ fails a x

@[simp]
theorem not_first_nil : ¬ First fails [] x := by
  rintro ⟨before, a, after, h, -⟩
  simp at h

theorem first_cons :
    First fails (a :: l) x ↔ fails a x ∨ (∀ y, ¬ fails a y) ∧ First fails l x := by
  constructor
  · rintro ⟨_ | ⟨b, before⟩, c, after, h, hbefore, hc⟩
    · obtain ⟨rfl, rfl⟩ := List.cons.inj h
      exact Or.inl hc
    · obtain ⟨rfl, rfl⟩ := List.cons.inj h
      obtain ⟨ha, hbefore⟩ := List.forall_mem_cons.1 hbefore
      exact Or.inr ⟨ha, before, c, after, rfl, hbefore, hc⟩
  · rintro (ha | ⟨ha, before, c, after, rfl, hbefore, hc⟩)
    · exact ⟨[], a, l, rfl, by simp, ha⟩
    · exact ⟨a :: before, c, after, rfl, List.forall_mem_cons.2 ⟨ha, hbefore⟩, hc⟩

theorem First.exists_mem (h : First fails l x) : ∃ a ∈ l, fails a x := by
  obtain ⟨before, a, after, rfl, -, ha⟩ := h
  exact ⟨a, by simp, ha⟩

/-- Where any part fails, one of them is the first. -/
theorem exists_first : (∃ x, First fails l x) ↔ ∃ a ∈ l, ∃ y, fails a y := by
  induction l with
  | nil => simp
  | cons a l ih =>
    constructor
    · rintro ⟨x, hx⟩
      obtain ⟨b, hb, hfails⟩ := hx.exists_mem
      exact ⟨b, hb, x, hfails⟩
    · rintro ⟨b, hb, y, hy⟩
      by_cases ha : ∃ z, fails a z
      · obtain ⟨z, hz⟩ := ha
        exact ⟨z, first_cons.2 (Or.inl hz)⟩
      · rw [not_exists] at ha
        have hb : b ∈ l := (List.mem_cons.1 hb).resolve_left fun h => ha y (h ▸ hy)
        obtain ⟨x, hx⟩ := ih.2 ⟨b, hb, y, hy⟩
        exact ⟨x, first_cons.2 (Or.inr ⟨ha, hx⟩)⟩

/-- What fails as the first of its parts succeeds when none of them fails. -/
theorem exists_ok_iff {β : Type} {r : Except Failure β} (h : ∀ x, r = .error x ↔ First fails l x) :
    (∃ b, r = .ok b) ↔ ∀ a ∈ l, ∀ y, ¬ fails a y := by
  have hfirst : (∃ x, r = .error x) ↔ ∃ a ∈ l, ∃ y, fails a y := by
    simp only [h, exists_first]
  cases r with
  | ok b => simpa using hfirst
  | error x => simpa using hfirst

/-- The first part that fails, by its place. -/
theorem first_iff_getElem? : First fails l x ↔ ∃ (i : Nat) (a : α), l[i]? = some a ∧ fails a x ∧
    ∀ j < i, ∀ b, l[j]? = some b → ∀ y, ¬ fails b y := by
  induction l with
  | nil => simp
  | cons a l ih =>
    rw [first_cons, ih]
    constructor
    · rintro (ha | ⟨ha, i, b, hb, hfails, hbefore⟩)
      · exact ⟨0, a, rfl, ha, by simp⟩
      · refine ⟨i + 1, b, hb, hfails, ?_⟩
        rintro (_ | j) hj c hc
        · obtain rfl : a = c := by simpa using hc
          exact ha
        · exact hbefore j (by omega) c (by simpa using hc)
    · rintro ⟨_ | i, b, hb, hfails, hbefore⟩
      · obtain rfl : a = b := by simpa using hb
        exact Or.inl hfails
      · refine Or.inr ⟨hbefore 0 (by omega) a rfl, i, b, by simpa using hb, hfails, ?_⟩
        exact fun j hj c hc => hbefore (j + 1) (by omega) c (by simpa using hc)

/-- A loop over parts: the first part is run, and if it succeeds, the rest. -/
theorem bind_eq_first {β γ δ : Type} {r : Except Failure β} {rest : Except Failure γ}
    {g : β → γ → δ} (ha : ∀ y, r = .error y ↔ fails a y)
    (hl : rest = .error x ↔ First fails l x) :
    (do let o ← r; let os ← rest; return g o os) = .error x ↔ First fails (a :: l) x := by
  rw [first_cons, Outcome.bind_eq_error]
  cases r with
  | error y =>
    have hy := (ha y).1 rfl
    constructor
    · rintro (hx | ⟨o, ho, -⟩)
      · exact Or.inl ((ha x).1 hx)
      · simp at ho
    · rintro (hx | ⟨hnot, -⟩)
      · exact Or.inl ((ha x).2 hx)
      · exact absurd hy (hnot y)
  | ok o =>
    have hnot : ∀ y, ¬ fails a y := fun y hy => by simpa using (ha y).2 hy
    simp [hnot, ← hl, Outcome.bind_eq_error, pure, Except.pure]

end First

/-! ## Items and entries -/

section Items

variable {f : Value → Except Failure Value} {x : Failure}

/-- Items fail as the first one that fails on its own does. -/
theorem items_eq_error {i : Nat} {xs : List Value} : items f i xs = .error x ↔
    First (fun e y => inside (.index e.2) (f e.1) = .error y) (xs.zipIdx i) x := by
  -- the parts are the items with their indices, which go on from `i`
  induction xs generalizing i with
  | nil => simp [items]
  | cons v r ih => exact bind_eq_first (fun _ => Iff.rfl) ih

theorem entries_eq_error {es : List (String × Value)} : entries f es = .error x ↔
    First (fun e y => inside (.field e.1) (f e.2) = .error y) es x := by
  induction es with
  | nil => simp [entries]
  | cons e r ih => exact bind_eq_first (fun _ => Iff.rfl) ih

end Items

/-! ## Fields and extras -/

/-- The field is required and absent, or its value fails on its own. -/
inductive FieldFails (run : Schema → Value → Except Failure Value) (m : List (String × Value)) :
    Field Schema → Failure → Prop
  | missing {f} (hf : f.required = true) (hm : f.name ∉ keys m) :
    FieldFails run m f (.missing f.name)
  | value {f u y} (hu : Entries.find? f.name m = some u) (hy : run f.type u = .error y) :
    FieldFails run m f (y.under [.field f.name])

/-- The entry is refused because no field declares its key, or its value fails on its own. -/
inductive ExtraFails (run : Schema → Value → Except Failure Value) :
    Extras Schema → String × Value → Failure → Prop
  | unknown {e} : ExtraFails run .closed e (.unknown e.1)
  | value {t e y} (hy : run t e.2 = .error y) : ExtraFails run (.typed t) e (y.under [.field e.1])

section Walk

variable {e : String → Value → Except Failure Value} {x : Failure} {m : List (String × Value)}

theorem fieldFails_of_find? {run : Schema → Value → Except Failure Value} {f : Field Schema}
    {u : Value} (hu : Entries.find? f.name m = some u) :
    inside (.field f.name) (run f.type u) = .error x ↔ FieldFails run m f x := by
  rw [inside_eq_error]
  constructor
  · rintro ⟨y, hy, rfl⟩
    exact .value hu hy
  · intro h
    cases h with
    | missing _ hm => exact absurd (Entries.mem_keys_of_find? hu) hm
    | value hu' hy =>
      obtain rfl := Option.some.inj (hu.symm.trans hu')
      exact ⟨_, hy, rfl⟩

theorem fieldFails_of_absent {run : Schema → Value → Except Failure Value} {f : Field Schema}
    (hm : f.name ∉ keys m) : FieldFails run m f x ↔ f.required = true ∧ x = .missing f.name := by
  constructor
  · intro h
    cases h with
    | missing hf _ => exact ⟨hf, rfl⟩
    | value hu _ => exact absurd (Entries.mem_keys_of_find? hu) hm
  · rintro ⟨hf, rfl⟩
    exact .missing hf hm

/-- Fields fail as the first one that fails does, in the order of declaration. -/
theorem walkFields_eq_error {fs : List (Field Schema)} :
    walkFields e m fs = .error x ↔ First (FieldFails (walk e) m) fs x := by
  induction fs with
  | nil => simp
  | cons f r ih =>
    rw [walkFields_cons]
    cases hfind : Entries.find? f.name m with
    | some u => exact bind_eq_first (fun _ => fieldFails_of_find? hfind) ih
    | none =>
      have hm : f.name ∉ keys m := (Entries.find?_eq_none_iff f.name m).1 hfind
      cases hf : f.required with
      | true => simp [first_cons, fieldFails_of_absent hm, hf, eq_comm]
      | false => simp [first_cons, fieldFails_of_absent hm, hf, ih]

theorem extraFails_typed {run : Schema → Value → Except Failure Value} {t : Schema}
    {en : String × Value} :
    ExtraFails run (.typed t) en x ↔ inside (.field en.1) (run t en.2) = .error x := by
  rw [inside_eq_error]
  constructor
  · intro h
    cases h with
    | value hy => exact ⟨_, hy, rfl⟩
  · rintro ⟨y, hy, rfl⟩
    exact .value hy

/-- Entries that no field declares fail as the first one that fails does, in the order of the input. -/
theorem walkExtras_eq_error {es : List (String × Value)} {ex : Extras Schema} :
    walkExtras e es ex = .error x ↔ First (ExtraFails (walk e) ex) es x := by
  cases ex with
  | closed =>
    have hclosed : ∀ en y, ExtraFails (walk e) .closed en y ↔ y = .unknown en.1 :=
      fun en y => ⟨fun h => by cases h; rfl, fun h => h ▸ .unknown⟩
    cases es with
    | nil => simp
    | cons en r => simp [first_cons, hclosed, eq_comm]
  | ignored =>
    have hignored : ∀ en y, ¬ ExtraFails (walk e) .ignored en y := fun en y h => by cases h
    constructor
    · simp
    · intro h
      obtain ⟨en, -, hen⟩ := h.exists_mem
      exact absurd hen (hignored en x)
  | typed t =>
    have htyped : ExtraFails (walk e) (.typed t) =
        fun en y => inside (.field en.1) (walk e t en.2) = .error y :=
      funext₂ fun _ _ => propext extraFails_typed
    rw [walkExtras_typed, entries_eq_error, htyped]

/-- Declared fields are fine when none of them fails. -/
theorem exists_walkFields_ok {fs : List (Field Schema)} :
    (∃ os, walkFields e m fs = .ok os) ↔ ∀ f ∈ fs, ∀ y, ¬ FieldFails (walk e) m f y :=
  exists_ok_iff fun _ => walkFields_eq_error

/-- Entries that no field declares are fine when none of them fails. -/
theorem exists_walkExtras_ok {es : List (String × Value)} {ex : Extras Schema} :
    (∃ os, walkExtras e es ex = .ok os) ↔ ∀ en ∈ es, ∀ y, ¬ ExtraFails (walk e) ex en y :=
  exists_ok_iff fun _ => walkExtras_eq_error

/-! ## The walk, type by type -/

/-- A list fails if one of its items does. -/
theorem exists_walk_array_error {t : Schema} {xs : List Value} :
    (∃ x, walk e (.array t) (.list xs) = .error x) ↔ ∃ u ∈ xs, ∃ y, walk e t u = .error y := by
  simp only [walk_array, Outcome.map_eq_error, items_eq_error, exists_first, inside_eq_error]
  constructor
  · rintro ⟨⟨u, i⟩, hu, _, y, hy, -⟩
    exact ⟨u, List.mem_of_getElem? (List.mem_zipIdx_iff_getElem?.1 hu), y, hy⟩
  · rintro ⟨u, hu, y, hy⟩
    obtain ⟨i, hi⟩ := List.mem_iff_getElem?.1 hu
    exact ⟨(u, i), List.mem_zipIdx_iff_getElem?.2 hi, _, y, hy, rfl⟩

/-- A list fails as the first of its items that fails does. -/
theorem walk_array_error_iff {t : Schema} {xs : List Value} :
    walk e (.array t) (.list xs) = .error x ↔ ∃ i u y, xs[i]? = some u ∧ walk e t u = .error y ∧
      (∀ j < i, ∀ w, xs[j]? = some w → ∃ o, walk e t w = .ok o) ∧ y.under [.index i] = x := by
  simp only [walk_array, Outcome.map_eq_error, items_eq_error, first_iff_getElem?,
    List.getElem?_zipIdx, Option.map_eq_some_iff, inside_eq_error, Nat.zero_add]
  constructor
  · rintro ⟨i, _, ⟨u, hu, rfl⟩, ⟨y, hy, hx⟩, hbefore⟩
    refine ⟨i, u, y, hu, hy, fun j hj w hw => ?_, hx⟩
    cases ho : walk e t w with
    | ok o => exact ⟨o, rfl⟩
    | error z => exact absurd ⟨z, ho, rfl⟩ (hbefore j hj (w, j) ⟨w, hw, rfl⟩ _)
  · rintro ⟨i, u, y, hu, hy, hbefore, hx⟩
    refine ⟨i, _, ⟨u, hu, rfl⟩, ⟨y, hy, hx⟩, ?_⟩
    rintro j hj _ ⟨w, hw, rfl⟩ _ ⟨z, hz, -⟩
    obtain ⟨o, ho⟩ := hbefore j hj w hw
    cases ho.symm.trans hz

/-- A record fails as its declared fields do, and if these are fine, as its other entries do. -/
theorem walk_record_error_iff {fs : List (Field Schema)} {ex : Extras Schema} :
    walk e (.record fs ex) (.record m) = .error x ↔ First (FieldFails (walk e) m) fs x ∨
      (∀ f ∈ fs, ∀ y, ¬ FieldFails (walk e) m f y) ∧
        First (ExtraFails (walk e) ex) (undeclared fs m) x := by
  rw [← walkFields_eq_error, ← walkExtras_eq_error, ← exists_walkFields_ok]
  simp [walk_record, Outcome.bind_eq_error, pure, Except.pure]

variable {v : Value}

theorem walk_array_error {t : Schema} (h : walk e (.array t) v = .error x) :
    x = .shape "List" v ∨ ∃ xs i u y, v = .list xs ∧ xs[i]? = some u ∧ walk e t u = .error y ∧
      y.under [.index i] = x := by
  cases v with
  | list xs =>
    obtain ⟨i, u, y, hu, hy, -, hx⟩ := walk_array_error_iff.1 h
    exact Or.inr ⟨xs, i, u, y, rfl, hu, hy, hx⟩
  | _ => exact Or.inl (by simpa [eq_comm] using h)

theorem walk_record_error {fs : List (Field Schema)} {ex : Extras Schema}
    (h : walk e (.record fs ex) v = .error x) :
    x = .shape "Record" v ∨ ∃ m, v = .record m ∧ ((∃ f ∈ fs, FieldFails (walk e) m f x) ∨
      ∃ en ∈ undeclared fs m, ExtraFails (walk e) ex en x) := by
  cases v with
  | record m =>
    rcases walk_record_error_iff.1 h with h | ⟨-, h⟩
    · exact Or.inr ⟨m, rfl, Or.inl h.exists_mem⟩
    · exact Or.inr ⟨m, rfl, Or.inr h.exists_mem⟩
  | _ => exact Or.inl (by simpa [eq_comm] using h)

/-- A union fails without a cause if it has no branches, and else because its first branch fails. -/
theorem walk_union_error {ts : List Schema} (h : walk e (.union ts) v = .error x) :
    ts = [] ∧ x = .noBranch none ∨
    ∃ t rest y, ts = t :: rest ∧ walk e t v = .error y ∧ x = .noBranch (some y) := by
  obtain ⟨r, hr, rfl⟩ := Outcome.mapError_eq_error.1 h
  cases ts with
  | nil =>
    obtain rfl : none = r := by simpa using hr
    exact Or.inl ⟨rfl, rfl⟩
  | cons t rest =>
    rw [walkBranches_cons] at hr
    cases ht : walk e t v with
    | ok o => simp [ht] at hr
    | error y =>
      rw [ht] at hr
      obtain ⟨_, -, rfl⟩ := Outcome.mapError_eq_error.1 hr
      exact Or.inr ⟨t, rest, y, rfl, ht, rfl⟩

theorem walk_refined_error {t : Schema} {cs : List Constraint}
    (h : walk e (.refined t cs) v = .error x) :
    walk e t v = .error x ∨ ∃ c ∈ cs, x = .violated c := by
  rw [walk_refined] at h
  rcases Outcome.bind_eq_error.1 h with h | ⟨o, -, h⟩
  · exact Or.inl h
  · split at h
    · rename_i c hc
      exact Or.inr ⟨c, List.mem_of_find?_eq_some hc, (Except.error.inj h).symm⟩
    · simp [pure, Except.pure] at h

end Walk

end Conform.Validate
