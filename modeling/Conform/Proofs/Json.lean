import Conform.Json.Basic
import Conform.Proofs.Entries
import Mathlib.Logic.Relation

/-!
# What stands in a document

A document is a tree. `parts` gives the documents that stand directly inside one, `ind` is induction
along them, and `Contains` goes down to any depth. A document in which no object has a name twice is
`Distinct`: these are the documents that `settle` leaves as they are, and all that it gives.

* `Json.settle_of_distinct`, `Json.distinct_settle`: what `settle` keeps and what it makes;
* `Json.sameItems_iff`, `Json.sameMembers_iff`: equality of documents, part by part.
-/

namespace Conform.Json

open Entries (keys mapValues)

/-! ## Parts and induction -/

/-- The documents that stand directly inside a document. -/
def parts : Json → List Json
  | .arr xs => xs
  | .obj m => m.map (·.2)
  | _ => []

theorem forall_parts_obj {P : Json → Prop} {m : List (String × Json)} :
    (∀ k ∈ (obj m).parts, P k) ↔ ∀ e ∈ m, P e.2 :=
  List.forall_mem_map

theorem sizeOf_part_lt {j k : Json} (hk : k ∈ j.parts) : sizeOf k < sizeOf j := by
  cases j with
  | arr xs =>
    have : sizeOf k < sizeOf xs := List.sizeOf_lt_of_mem hk
    simp only [arr.sizeOf_spec]
    omega
  | obj m =>
    obtain ⟨e, he, rfl⟩ := List.mem_map.1 hk
    have hentry : sizeOf e < sizeOf m := List.sizeOf_lt_of_mem he
    have hvalue : sizeOf e.2 < sizeOf e := by
      obtain ⟨n, v⟩ := e
      simp only [Prod.mk.sizeOf_spec]
      omega
    simp only [obj.sizeOf_spec]
    omega
  | _ => simp [parts] at hk

/-- **Induction on documents**, with one hypothesis for all parts. -/
theorem ind {P : Json → Prop} (step : ∀ j, (∀ k ∈ j.parts, P k) → P j) (j : Json) : P j :=
  step j fun k _ => ind step k
termination_by sizeOf j
decreasing_by exact sizeOf_part_lt ‹_›

/-- The second document stands in the first, at any depth; a document stands in itself. -/
def Contains : Json → Json → Prop := Relation.ReflTransGen fun j k => k ∈ j.parts

theorem contains_iff {j k : Json} : j.Contains k ↔ j = k ∨ ∃ i ∈ j.parts, i.Contains k :=
  Relation.ReflTransGen.cases_head_iff

/-- What holds of all documents of a sort, at any depth, holds at the top and in the parts. -/
theorem forall_contains {α : Type} {f : α → Json} {Q : α → Prop} {j : Json} :
    (∀ a, j.Contains (f a) → Q a) ↔
      (∀ a, j = f a → Q a) ∧ ∀ i ∈ j.parts, ∀ a, i.Contains (f a) → Q a := by
  constructor
  · intro h
    refine ⟨fun a ha => h a (contains_iff.2 (Or.inl ha)), fun i hi a ha => ?_⟩
    exact h a (contains_iff.2 (Or.inr ⟨i, hi, ha⟩))
  · rintro ⟨htop, hparts⟩ a ha
    rcases contains_iff.1 ha with ha | ⟨i, hi, ha⟩
    · exact htop a ha
    · exact hparts i hi a ha

/-! ## Distinct names -/

/-- No object in the document has two members of one name. -/
def Distinct (j : Json) : Prop := ∀ m, j.Contains (.obj m) → (keys m).Nodup

theorem distinct_iff {j : Json} :
    j.Distinct ↔ (∀ m, j = .obj m → (keys m).Nodup) ∧ ∀ k ∈ j.parts, k.Distinct :=
  forall_contains

/-- A document with nothing inside it has no name twice. -/
theorem distinct_of_parts {j : Json} (h : j.parts = []) : j.Distinct := by
  refine distinct_iff.2 ⟨?_, by simp [h]⟩
  rintro m rfl
  obtain rfl : m = [] := List.map_eq_nil_iff.1 h
  exact List.nodup_nil

theorem distinct_arr {xs : List Json} : Distinct (.arr xs) ↔ ∀ x ∈ xs, x.Distinct := by
  rw [distinct_iff]
  exact and_iff_right fun m hm => Json.noConfusion hm

theorem distinct_obj {m : List (String × Json)} :
    Distinct (.obj m) ↔ (keys m).Nodup ∧ ∀ e ∈ m, e.2.Distinct := by
  rw [distinct_iff]
  refine and_congr ⟨fun h => h m rfl, fun h m' hm' => ?_⟩ forall_parts_obj
  cases hm'
  exact h

theorem settleItems_eq (xs : List Json) : settleItems xs = xs.map settle := by
  induction xs with
  | nil => rfl
  | cons x xs ih => rw [settleItems, ih, List.map_cons]

theorem settleMembers_eq (m : List (String × Json)) : settleMembers m = mapValues settle m := by
  induction m with
  | nil => rfl
  | cons e m ih => rw [settleMembers, ih, mapValues, mapValues, List.map_cons]

/-- **A document without repeated names is settled.** -/
theorem settle_of_distinct {j : Json} (h : j.Distinct) : j.settle = j := by
  induction j using ind with
  | _ j ih =>
    cases j with
    | arr xs =>
      have hxs : xs.map settle = xs := by
        refine (List.map_congr_left fun x hx => ?_).trans (List.map_id xs)
        exact ih x hx (distinct_arr.1 h x hx)
      rw [settle, settleItems_eq, hxs]
    | obj m =>
      obtain ⟨hm, hvalues⟩ := distinct_obj.1 h
      have hsettle : mapValues settle m = m := by
        refine (List.map_congr_left fun e he => ?_).trans (List.map_id m)
        rw [ih e.2 (List.mem_map_of_mem he) (hvalues e he)]
        rfl
      rw [settle, settleMembers_eq, hsettle, Entries.settle_of_nodup hm]
    | _ => rfl

/-- **What is settled repeats no name**, at any depth. -/
theorem distinct_settle (j : Json) : j.settle.Distinct := by
  induction j using ind with
  | _ j ih =>
    cases j with
    | arr xs =>
      rw [settle, settleItems_eq, distinct_arr]
      intro x hx
      obtain ⟨y, hy, rfl⟩ := List.mem_map.1 hx
      exact ih y hy
    | obj m =>
      rw [settle, settleMembers_eq, distinct_obj]
      refine ⟨Entries.nodup_keys_settle _, fun e he => ?_⟩
      obtain ⟨f, hf, rfl⟩ := List.mem_map.1 (Entries.mem_of_mem_settle he)
      exact ih f.2 (List.mem_map_of_mem hf)
    | _ => exact distinct_of_parts rfl

/-! ## Equality -/

theorem sameItems_iff {xs ys : List Json} :
    sameItems xs ys = true ↔ List.Forall₂ (fun x y => x.same y = true) xs ys := by
  induction xs generalizing ys with
  | nil => cases ys <;> simp [sameItems]
  | cons x xs ih => cases ys <;> simp [sameItems, ih]

theorem sameMembers_iff {m m' : List (String × Json)} : sameMembers m m' = true ↔
    ∀ e ∈ m, ∃ b, Entries.find? e.1 m' = some b ∧ e.2.same b = true := by
  induction m with
  | nil => simp [sameMembers]
  | cons e m ih =>
    rw [sameMembers, Bool.and_eq_true, ih, List.forall_mem_cons]
    cases Entries.find? e.1 m' <;> simp

end Conform.Json
