import Conform.Schema
import Mathlib.Data.List.Basic

/-!
# The parts of a type

A type expression is a tree. `parts` gives the types that stand directly inside a type; `ind` is
induction along them. What a check on the whole tree says about the tree it says about every part:
the references of a part are references of the type, and a type that declares no field twice has
parts that declare none twice.
-/

namespace Conform

/-- The ways to treat extras differ at most in the type, which is related. -/
inductive Extras.Alike {τ : Type} (R : τ → τ → Prop) : Extras τ → Extras τ → Prop
  | closed : Alike R .closed .closed
  | ignored : Alike R .ignored .ignored
  | typed {t t'} (h : R t t') : Alike R (.typed t) (.typed t')

theorem Extras.alike_refl {τ : Type} {R : τ → τ → Prop} {ex : Extras τ}
    (h : ∀ t, ex = .typed t → R t t) : ex.Alike R ex := by
  cases ex with
  | closed => exact .closed
  | ignored => exact .ignored
  | typed t => exact .typed (h t rfl)

namespace Schema

/-! ## Parts and induction -/

/-- The types that stand directly inside a type. -/
def parts : Schema → List Schema
  | .nullable t => [t]
  | .union ts => ts
  | .array t => [t]
  | .record fs (.typed t) => fs.map (·.type) ++ [t]
  | .record fs _ => fs.map (·.type)
  | .refined t _ => [t]
  | _ => []

theorem field_mem_parts {fs : List (Field Schema)} {ex : Extras Schema} {f : Field Schema}
    (hf : f ∈ fs) : f.type ∈ (record fs ex).parts := by
  have : f.type ∈ fs.map (·.type) := List.mem_map_of_mem hf
  cases ex <;> simp_all [parts]

theorem extras_mem_parts {fs : List (Field Schema)} {t : Schema} :
    t ∈ (record fs (.typed t)).parts := by
  simp [parts]

/-- A part of a record is the type of a field or the type of the extras. -/
theorem mem_parts_record {fs : List (Field Schema)} {ex : Extras Schema} {u : Schema} :
    u ∈ (record fs ex).parts ↔ (∃ f ∈ fs, f.type = u) ∨ ex = .typed u := by
  cases ex <;> simp [parts, eq_comm]

theorem sizeOf_type_lt {fs : List (Field Schema)} {f : Field Schema} (hf : f ∈ fs) :
    sizeOf f.type < sizeOf fs := by
  have h1 : sizeOf f < sizeOf fs := List.sizeOf_lt_of_mem hf
  have h2 : sizeOf f.type < sizeOf f := by
    obtain ⟨n, t, r⟩ := f
    simp only [Field.mk.sizeOf_spec]
    omega
  omega

theorem sizeOf_part_lt {t u : Schema} (hu : u ∈ t.parts) : sizeOf u < sizeOf t := by
  cases t with
  | primitive k => simp [parts] at hu
  | literal ms => simp [parts] at hu
  | ref n => simp [parts] at hu
  | nullable t =>
    obtain rfl : u = t := by simpa [parts] using hu
    simp
  | array t =>
    obtain rfl : u = t := by simpa [parts] using hu
    simp
  | refined t cs =>
    obtain rfl : u = t := by simpa [parts] using hu
    simp only [refined.sizeOf_spec]
    omega
  | union ts =>
    have : sizeOf u < sizeOf ts := List.sizeOf_lt_of_mem hu
    simp only [union.sizeOf_spec]
    omega
  | record fs ex =>
    simp only [record.sizeOf_spec]
    rcases mem_parts_record.1 hu with ⟨f, hf, rfl⟩ | rfl
    · have := sizeOf_type_lt hf
      omega
    · simp only [Extras.typed.sizeOf_spec]
      omega

/-- **Induction on types**, with one hypothesis for all parts. -/
theorem ind {P : Schema → Prop} (step : ∀ t, (∀ u ∈ t.parts, P u) → P t) (t : Schema) : P t :=
  step t fun u _ => ind step u
termination_by sizeOf t
decreasing_by exact sizeOf_part_lt ‹_›

/-! ## References -/

theorem branchReferences_eq (ts : List Schema) :
    branchReferences ts = ts.flatMap references := by
  induction ts with
  | nil => simp [branchReferences]
  | cons t r ih => simp [branchReferences, ih]

theorem fieldReferences_eq (fs : List (Field Schema)) :
    fieldReferences fs = fs.flatMap (·.type.references) := by
  induction fs with
  | nil => simp [fieldReferences]
  | cons f r ih => simp [fieldReferences, ih]

theorem unguardedBranches_eq (ts : List Schema) :
    unguardedBranches ts = ts.flatMap unguarded := by
  induction ts with
  | nil => simp [unguardedBranches]
  | cons t r ih => simp [unguardedBranches, ih]

/-- The references of a type, read off its parts: a name refers to itself, all else refers to what
its parts refer to. -/
theorem mem_references {t : Schema} {n : String} :
    n ∈ t.references ↔ t = .ref n ∨ ∃ u ∈ t.parts, n ∈ u.references := by
  cases t with
  | record fs ex =>
    cases ex <;> simp [references, fieldReferences_eq, mem_parts_record, or_and_right, exists_or]
  | ref m => simp [references, parts, eq_comm]
  | _ => simp [references, parts, branchReferences_eq]

theorem references_of_part {t u : Schema} (hu : u ∈ t.parts) : u.references ⊆ t.references :=
  fun _ hn => mem_references.2 (Or.inr ⟨u, hu, hn⟩)

theorem unguarded_subset_references (t : Schema) : t.unguarded ⊆ t.references := by
  induction t using ind with
  | _ t ih =>
    intro n hn
    cases t with
    | ref m => simpa [unguarded, references] using hn
    | nullable t => exact references_of_part (by simp [parts]) (ih t (by simp [parts]) hn)
    | refined t cs => exact references_of_part (by simp [parts]) (ih t (by simp [parts]) hn)
    | union ts =>
      simp only [unguarded, unguardedBranches_eq, List.mem_flatMap] at hn
      obtain ⟨t, ht, hn⟩ := hn
      exact references_of_part (t := .union ts) ht (ih t ht hn)
    | _ => simp [unguarded] at hn

/-! ## Fields declared once -/

theorem repeatedInBranches?_eq_none {ts : List Schema} :
    repeatedInBranches? ts = none ↔ ∀ t ∈ ts, t.repeatedField? = none := by
  induction ts with
  | nil => simp [repeatedInBranches?]
  | cons t r ih => simp [repeatedInBranches?, ih]

theorem repeatedInFields?_eq_none {seen : List String} {fs : List (Field Schema)} :
    repeatedInFields? seen fs = none ↔ (∀ f ∈ fs, f.type.repeatedField? = none) ∧
      (fs.map (·.name)).Nodup ∧ ∀ f ∈ fs, f.name ∉ seen := by
  induction fs generalizing seen with
  | nil => simp [repeatedInFields?]
  | cons f r ih =>
    obtain ⟨n, t, b⟩ := f
    by_cases hn : n ∈ seen
    · simp [repeatedInFields?, hn]
    · have hstep : repeatedInFields? seen (⟨n, t, b⟩ :: r) = none ↔
          t.repeatedField? = none ∧ repeatedInFields? (n :: seen) r = none := by
        simp [repeatedInFields?, hn]
      rw [hstep, ih]
      constructor
      · rintro ⟨ht, hr, hnodup, hseen⟩
        refine ⟨by simpa [ht] using hr, ?_, ?_⟩
        · refine List.nodup_cons.2 ⟨fun hm => ?_, hnodup⟩
          obtain ⟨f, hf, rfl⟩ := List.mem_map.1 hm
          exact hseen f hf List.mem_cons_self
        · intro f hf
          rcases List.mem_cons.1 hf with rfl | hf
          · exact hn
          · exact fun hm => hseen f hf (List.mem_cons_of_mem _ hm)
      · rintro ⟨hr, hnodup, hseen⟩
        obtain ⟨hnr, hnodup⟩ := List.nodup_cons.1 hnodup
        refine ⟨hr _ List.mem_cons_self, fun f hf => hr f (List.mem_cons_of_mem _ hf), hnodup, ?_⟩
        intro f hf hm
        rcases List.mem_cons.1 hm with rfl | hm
        · exact hnr (List.mem_map.2 ⟨f, hf, rfl⟩)
        · exact hseen f (List.mem_cons_of_mem _ hf) hm

/-- A type declares no field twice when its own fields have distinct names and no part declares a
field twice. -/
theorem repeatedField?_eq_none {t : Schema} : t.repeatedField? = none ↔
    (∀ fs ex, t = .record fs ex → (fs.map (·.name)).Nodup) ∧ ∀ u ∈ t.parts, u.repeatedField? = none := by
  cases t with
  | record fs ex =>
    cases ex <;> simp [repeatedField?, parts, repeatedInFields?_eq_none] <;> grind
  | _ => simp [repeatedField?, parts, repeatedInBranches?_eq_none]

end Schema

end Conform
