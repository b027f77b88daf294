import Conform.Proofs.Validate.Enough
import Conform.Proofs.Validate.Parts

/-!
# Types of one shape

Two types are `Alike` when they have the same constructor and their parts are related place by place.
A walk goes through such types in the same way: `walk_alike` says that the outcomes are equal, failures
included, when those of the nested calls are.
-/

namespace Conform

/-- The fields differ at most in their types, which are related. -/
structure Field.Alike (R : Schema → Schema → Prop) (f f' : Field Schema) : Prop where
  name : f'.name = f.name
  required : f'.required = f.required
  type : R f.type f'.type

/-- Fields that differ at most in their types have the same names. -/
theorem names_of_alike {R : Schema → Schema → Prop} {fs fs' : List (Field Schema)}
    (h : List.Forall₂ (Field.Alike R) fs fs') : fs'.map (·.name) = fs.map (·.name) := by
  induction h with
  | nil => rfl
  | cons hf _ ih => rw [List.map_cons, List.map_cons, hf.name, ih]

namespace Schema

/-- The types are of one shape, and their parts are related place by place. -/
inductive Alike (R : Schema → Schema → Prop) : Schema → Schema → Prop
  | primitive (k) : Alike R (.primitive k) (.primitive k)
  | literal (ms) : Alike R (.literal ms) (.literal ms)
  | nullable {t t'} (h : R t t') : Alike R (.nullable t) (.nullable t')
  | union {ts ts'} (h : List.Forall₂ R ts ts') : Alike R (.union ts) (.union ts')
  | array {t t'} (h : R t t') : Alike R (.array t) (.array t')
  | record {fs fs' ex ex'} (hf : List.Forall₂ (Field.Alike R) fs fs') (hx : Extras.Alike R ex ex') :
    Alike R (.record fs ex) (.record fs' ex')
  | refined (cs) {t t'} (h : R t t') : Alike R (.refined t cs) (.refined t' cs)
  | ref (n) : Alike R (.ref n) (.ref n)

section Alike

variable {R : Schema → Schema → Prop} {t t' : Schema}

theorem alike_refl (h : ∀ u, R u u) (t : Schema) : t.Alike R t := by
  cases t with
  | primitive k => exact .primitive k
  | literal ms => exact .literal ms
  | nullable t => exact .nullable (h t)
  | union ts => exact .union (List.forall₂_same.2 fun u _ => h u)
  | array t => exact .array (h t)
  | record fs ex =>
    exact .record (List.forall₂_same.2 fun f _ => ⟨rfl, rfl, h f.type⟩)
      (Extras.alike_refl fun u _ => h u)
  | refined t cs => exact .refined cs (h t)
  | ref n => exact .ref n

/-- A type is of its own shape, with its own parts. -/
theorem alike_parts (t : Schema) : t.Alike (fun u u' => u' = u ∧ u ∈ t.parts) t := by
  cases t with
  | primitive k => exact .primitive k
  | literal ms => exact .literal ms
  | ref n => exact .ref n
  | nullable t => exact .nullable ⟨rfl, by simp [parts]⟩
  | array t => exact .array ⟨rfl, by simp [parts]⟩
  | refined t cs => exact .refined cs ⟨rfl, by simp [parts]⟩
  | union ts => exact .union (List.forall₂_same.2 fun u hu => ⟨rfl, hu⟩)
  | record fs ex =>
    refine .record (List.forall₂_same.2 fun f hf => ⟨rfl, rfl, rfl, field_mem_parts hf⟩) ?_
    exact Extras.alike_refl fun u hu => ⟨rfl, hu ▸ extras_mem_parts⟩

/-- Every part of the second type has its part in the first. -/
theorem Alike.exists_part (h : t.Alike R t') {u' : Schema} (hu : u' ∈ t'.parts) :
    ∃ u ∈ t.parts, R u u' := by
  cases h with
  | primitive k => simp [parts] at hu
  | literal ms => simp [parts] at hu
  | ref n => simp [parts] at hu
  | nullable h =>
    obtain rfl := List.mem_singleton.1 hu
    exact ⟨_, List.mem_singleton_self _, h⟩
  | array h =>
    obtain rfl := List.mem_singleton.1 hu
    exact ⟨_, List.mem_singleton_self _, h⟩
  | refined cs h =>
    obtain rfl := List.mem_singleton.1 hu
    exact ⟨_, List.mem_singleton_self _, h⟩
  | union h => exact Validate.exists_of_mem_right h hu
  | record hf hx =>
    rcases mem_parts_record.1 hu with ⟨f', hf', rfl⟩ | rfl
    · obtain ⟨f, hmem, halike⟩ := Validate.exists_of_mem_right hf hf'
      exact ⟨f.type, field_mem_parts hmem, halike.type⟩
    · cases hx with
      | typed h => exact ⟨_, extras_mem_parts, h⟩

/-- A name in reach without a guard is the second type, or in reach from one of its parts, whose part
in the first type is in reach there. -/
theorem Alike.unguarded (h : t.Alike R t') {n : String} (hn : n ∈ t'.unguarded) :
    t = .ref n ∨ ∃ u ∈ t.parts, u.unguarded ⊆ t.unguarded ∧ ∃ u', R u u' ∧ n ∈ u'.unguarded := by
  cases h with
  | primitive k => simp [Schema.unguarded] at hn
  | literal ms => simp [Schema.unguarded] at hn
  | array h => simp [Schema.unguarded] at hn
  | record hf hx => simp [Schema.unguarded] at hn
  | ref m =>
    obtain rfl : n = m := by simpa [Schema.unguarded] using hn
    exact Or.inl rfl
  | @nullable t t' h =>
    exact Or.inr ⟨t, by simp [parts], by simp [Schema.unguarded], t', h, hn⟩
  | @refined cs t t' h =>
    exact Or.inr ⟨t, by simp [parts], by simp [Schema.unguarded], t', h, hn⟩
  | @union ts ts' h =>
    simp only [Schema.unguarded, unguardedBranches_eq, List.mem_flatMap] at hn
    obtain ⟨u', hu', hn⟩ := hn
    obtain ⟨u, hu, hR⟩ := Validate.exists_of_mem_right h hu'
    refine Or.inr ⟨u, hu, fun m hm => ?_, u', hR, hn⟩
    simp only [Schema.unguarded, unguardedBranches_eq]
    exact List.mem_flatMap.2 ⟨u, hu, hm⟩

end Alike

end Schema

namespace Validate

theorem undeclared_eq (fs : List (Field Schema)) (m : List (String × Value)) :
    undeclared fs m = m.filter fun en => !(fs.map (·.name)).any (· == en.1) := by
  simp [undeclared, List.any_map, Function.comp_def]

/-- **Types of one shape are walked alike**: the outcomes are equal when those of the nested calls
are. -/
theorem walk_alike {e₁ e₂ : String → Value → Except Failure Value} {R : Schema → Schema → Prop}
    {s : Scope} {t t' : Schema} {v : Value} (h : t.Alike R t')
    (nested : ∀ u u' w, Call.Nests ⟨s, t, v⟩ ⟨s, u, w⟩ → R u u' → walk e₁ u w = walk e₂ u' w)
    (name : ∀ n, t = .ref n → e₁ n v = e₂ n v) : walk e₁ t v = walk e₂ t' v := by
  cases h with
  | primitive k => rfl
  | literal ms => rfl
  | ref n => exact name n rfl
  | nullable h =>
    rw [walk_nullable, walk_nullable]
    split
    · rfl
    · rename_i hv
      exact nested _ _ v (.nullable (by simpa using hv)) h
  | refined cs h => rw [walk_refined, walk_refined, nested _ _ v .base h]
  | union h =>
    have hts := forall₂_imp_of_mem h fun u hu u' _ hR => nested u u' v (.branch hu) hR
    rw [walk_union, walk_union, walkBranches_congr hts]
  | @array t t' h =>
    cases v with
    | list xs =>
      have hxs : ∀ w ∈ xs, walk e₁ t w = walk e₂ t' w := fun w hw => nested t t' w (.item hw) h
      simp only [walk_array, items_congr 0 hxs]
    | _ => rfl
  | @record fs fs' ex ex' hf hx =>
    cases v with
    | record m =>
      have hfields : walkFields e₁ m fs = walkFields e₂ m fs' :=
        walkFields_congr <| forall₂_imp_of_mem hf fun f hf f' _ halike =>
          ⟨halike.name, halike.required, fun w hw => nested f.type f'.type w (.field hf hw) halike.type⟩
      have hsame : undeclared fs' m = undeclared fs m := by
        rw [undeclared_eq, undeclared_eq, names_of_alike hf]
      have hextras : walkExtras e₁ (undeclared fs m) ex = walkExtras e₂ (undeclared fs m) ex' := by
        cases hx with
        | closed => exact walkExtras_congr .closed
        | ignored => exact walkExtras_congr .ignored
        | typed h =>
          exact walkExtras_congr (.typed fun en hen => nested _ _ en.2 (.extra hen) h)
      simp only [walk_record, hfields, hsame, hextras]
    | _ => rfl

end Validate

end Conform
