import Conform.Entries
import Mathlib.Data.List.Forall2
import Mathlib.Data.List.Nodup

/-!
# Entries with distinct names

`settle` leaves entries with distinct names as they are, and makes the names of any entries distinct.
`Paired Q` relates entries of one name with related values; entries that are paired off are looked up,
put and settled in pairs.
-/

namespace Conform.Entries

variable {α : Type} {k : String} {a : α} {m r : List (String × α)}

/-! ## Names and lookup -/

theorem keys_append (m r : List (String × α)) : keys (m ++ r) = keys m ++ keys r := by
  simp [keys]

theorem mem_keys_of_mem {e : String × α} (h : e ∈ m) : e.1 ∈ keys m :=
  List.mem_map.2 ⟨e, h, rfl⟩

theorem mem_of_find? (h : find? k m = some a) : (k, a) ∈ m := by
  induction m with
  | nil => simp at h
  | cons p r ih =>
    obtain ⟨n, b⟩ := p
    simp only [find?] at h
    split at h
    · rename_i hk
      simp_all
    · exact List.mem_cons_of_mem _ (ih h)

theorem mem_keys_of_find? (h : find? k m = some a) : k ∈ keys m :=
  mem_keys_of_mem (mem_of_find? h)

theorem find?_of_mem (hm : (keys m).Nodup) (h : (k, a) ∈ m) : find? k m = some a := by
  induction m with
  | nil => simp at h
  | cons p r ih =>
    obtain ⟨hp, hr⟩ := List.nodup_cons.1 hm
    rcases List.mem_cons.1 h with rfl | h
    · simp [find?]
    · have hne : p.1 ≠ k := fun e => hp (List.mem_map.2 ⟨(k, a), h, e.symm⟩)
      rw [find?, if_neg hne]
      exact ih hr h

/-- The order of entries with distinct names does not matter to a lookup. -/
theorem find?_perm {p : List (String × α)} (hp : m.Perm p) (hm : (keys m).Nodup) (k : String) :
    find? k p = find? k m := by
  have hnodup : (keys p).Nodup := (hp.map _).nodup_iff.1 hm
  cases hk : find? k m with
  | none =>
    have hnot : k ∉ keys m := (find?_eq_none_iff k m).1 hk
    exact (find?_eq_none_iff k p).2 fun hmem => hnot ((hp.map _).mem_iff.2 hmem)
  | some a => exact find?_of_mem hnodup (hp.mem_iff.1 (mem_of_find? hk))

theorem find?_append (k : String) (m r : List (String × α)) :
    find? k (m ++ r) = (find? k m).or (find? k r) := by
  induction m with
  | nil => rfl
  | cons e m ih =>
    rw [List.cons_append, find?, find?]
    split
    · rfl
    · exact ih

/-! ## Changing values -/

/-- The entries with changed values. -/
def mapValues {β : Type} (g : α → β) (m : List (String × α)) : List (String × β) :=
  m.map fun e => (e.1, g e.2)

@[simp] theorem keys_mapValues {β : Type} (g : α → β) (m : List (String × α)) :
    keys (mapValues g m) = keys m := by
  simp [keys, mapValues]

@[simp] theorem mapValues_id (m : List (String × α)) : mapValues id m = m := List.map_id' m

theorem mapValues_append {β : Type} (g : α → β) (m r : List (String × α)) :
    mapValues g (m ++ r) = mapValues g m ++ mapValues g r :=
  List.map_append

theorem mem_mapValues {β : Type} {g : α → β} {m : List (String × α)} {e : String × β} :
    e ∈ mapValues g m ↔ ∃ d ∈ m, (d.1, g d.2) = e :=
  List.mem_map

/-! ## Putting entries -/

theorem put_append_of_notMem (hk : k ∉ keys m) (r : List (String × α)) :
    put k a (m ++ r) = m ++ put k a r := by
  induction m with
  | nil => rfl
  | cons p m ih =>
    obtain ⟨hne, hk⟩ : k ≠ p.1 ∧ k ∉ keys m := by simpa [keys] using hk
    rw [List.cons_append, put, if_neg (Ne.symm hne), ih hk, List.cons_append]

theorem mem_put {e : String × α} (h : e ∈ put k a m) : e = (k, a) ∨ e ∈ m := by
  induction m with
  | nil => simpa [put] using h
  | cons p r ih =>
    rw [put] at h
    split at h
    · rcases List.mem_cons.1 h with h | h
      · exact Or.inl h
      · exact Or.inr (List.mem_cons_of_mem _ h)
    · rcases List.mem_cons.1 h with rfl | h
      · exact Or.inr List.mem_cons_self
      · exact (ih h).imp_right (List.mem_cons_of_mem _)

theorem nodup_keys_put (hm : (keys m).Nodup) : (keys (put k a m)).Nodup := by
  rw [keys_put]
  split
  · exact hm
  · rename_i hk
    exact List.nodup_append'.2 ⟨hm, List.nodup_singleton k, by simpa using hk⟩

theorem putAll_append (m r₁ r₂ : List (String × α)) :
    putAll m (r₁ ++ r₂) = putAll (putAll m r₁) r₂ := by
  induction r₁ generalizing m with
  | nil => rfl
  | cons e r₁ ih => exact ih _

theorem putAll_append_of_notMem (h : ∀ k ∈ keys r, k ∉ keys m) (m' : List (String × α)) :
    putAll (m ++ m') r = m ++ putAll m' r := by
  induction r generalizing m' with
  | nil => rfl
  | cons e r ih =>
    rw [putAll, put_append_of_notMem (h e.1 List.mem_cons_self), putAll]
    exact ih (fun k hk => h k (List.mem_cons_of_mem _ hk)) _

theorem nodup_keys_putAll (hm : (keys m).Nodup) (r : List (String × α)) :
    (keys (putAll m r)).Nodup := by
  induction r generalizing m with
  | nil => exact hm
  | cons e r ih => exact ih (nodup_keys_put hm)

theorem mem_putAll {e : String × α} (h : e ∈ putAll m r) : e ∈ m ∨ e ∈ r := by
  induction r generalizing m with
  | nil => exact Or.inl h
  | cons p r ih =>
    rcases ih h with h | h
    · rcases mem_put h with rfl | h
      · exact Or.inr List.mem_cons_self
      · exact Or.inl h
    · exact Or.inr (List.mem_cons_of_mem _ h)

/-! ## Settling -/

theorem nodup_keys_settle (m : List (String × α)) : (keys (settle m)).Nodup :=
  nodup_keys_putAll (m := []) (by simp [keys]) m

theorem mem_of_mem_settle {e : String × α} (h : e ∈ settle m) : e ∈ m :=
  (mem_putAll h).resolve_left (by simp)

/-- New entries with distinct names go to the end, in their order. -/
theorem putAll_of_new (m : List (String × α)) (hr : (keys r).Nodup) (hnew : ∀ k ∈ keys r, k ∉ keys m) :
    putAll m r = m ++ r := by
  induction r generalizing m with
  | nil => simp [putAll]
  | cons e r ih =>
    obtain ⟨he, hr⟩ := List.nodup_cons.1 hr
    have hput : put e.1 e.2 m = m ++ [e] := by
      simpa [put] using put_append_of_notMem (a := e.2) (hnew e.1 List.mem_cons_self) []
    rw [putAll, hput, ih (m ++ [e]) hr, List.append_assoc, List.singleton_append]
    intro k hk hmem
    rw [keys_append, List.mem_append] at hmem
    rcases hmem with hmem | hmem
    · exact hnew k (List.mem_cons_of_mem _ hk) hmem
    · obtain rfl : k = e.1 := by simpa [keys] using hmem
      exact he hk

/-- Entries with distinct names are settled. -/
theorem settle_of_nodup (hm : (keys m).Nodup) : settle m = m :=
  putAll_of_new [] hm (by simp [keys])

/-- Entries with distinct names stay as they are in front of entries with other names. -/
theorem settle_append (hm : (keys m).Nodup) (h : ∀ k ∈ keys r, k ∉ keys m) :
    settle (m ++ r) = m ++ settle r := by
  have hsettle : putAll [] m = m := settle_of_nodup hm
  rw [settle, putAll_append, hsettle]
  simpa [settle] using putAll_append_of_notMem h []

/-- Entries with distinct new names stay as they are behind others. -/
theorem settle_append_new (hr : (keys r).Nodup) (h : ∀ k ∈ keys r, k ∉ keys m) :
    settle (m ++ r) = settle m ++ r := by
  rw [settle, putAll_append, putAll_of_new _ hr]
  · rfl
  · intro k hk hmem
    obtain ⟨e, he, rfl⟩ := List.mem_map.1 hmem
    exact h e.1 hk (mem_keys_of_mem (mem_of_mem_settle he))

/-! ## Entries in pairs -/

/-- The entries have one name and related values. -/
def Paired (Q : α → α → Prop) (e e' : String × α) : Prop := e'.1 = e.1 ∧ Q e.2 e'.2

section Paired

variable {Q : α → α → Prop} {m' r' : List (String × α)}

theorem keys_paired (h : List.Forall₂ (Paired Q) m m') : keys m' = keys m := by
  induction h with
  | nil => rfl
  | cons he _ ih => exact congrArg₂ (· :: ·) he.1 ih

/-- A name stands for related values, or for none in both. -/
theorem find?_paired (h : List.Forall₂ (Paired Q) m m') (k : String) :
    (find? k m = none ∧ find? k m' = none) ∨
    ∃ a a', find? k m = some a ∧ find? k m' = some a' ∧ Q a a' := by
  induction h with
  | nil => exact Or.inl ⟨rfl, rfl⟩
  | @cons e e' m m' he _ ih =>
    rw [find?, find?, he.1]
    by_cases hk : e.1 = k
    · rw [if_pos hk, if_pos hk]
      exact Or.inr ⟨e.2, e'.2, rfl, rfl, he.2⟩
    · rw [if_neg hk, if_neg hk]
      exact ih

theorem put_paired (h : List.Forall₂ (Paired Q) m m') (k : String) {a a' : α} (ha : Q a a') :
    List.Forall₂ (Paired Q) (put k a m) (put k a' m') := by
  induction h with
  | nil => exact .cons ⟨rfl, ha⟩ .nil
  | @cons e e' m m' he hm ih =>
    rw [put, put, he.1]
    split
    · exact .cons ⟨rfl, ha⟩ hm
    · exact .cons ⟨rfl, he.2⟩ ih

theorem putAll_paired (h : List.Forall₂ (Paired Q) m m') (hr : List.Forall₂ (Paired Q) r r') :
    List.Forall₂ (Paired Q) (putAll m r) (putAll m' r') := by
  induction hr generalizing m m' with
  | nil => exact h
  | @cons e e' r r' he _ ih =>
    rw [putAll, putAll, he.1]
    exact ih (put_paired h e.1 he.2)

theorem settle_paired (h : List.Forall₂ (Paired Q) m m') :
    List.Forall₂ (Paired Q) (settle m) (settle m') :=
  putAll_paired .nil h

end Paired

end Conform.Entries
