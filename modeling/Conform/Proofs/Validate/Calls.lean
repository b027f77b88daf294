import Conform.Proofs.Scope.Built
import Mathlib.Logic.Relation
import Mathlib.Order.WellFounded

/-!
# The calls of a walk

`Call.Nests c d` says that the walk of the call `c` can make the call `d`. A reference goes to the type
it means, in the scope that binds it, with the value unchanged; so the calls do not shrink the type.
What shrinks along every chain of calls, in this order, is the depth of the value, the level of the
names in reach without a guard, and the type:

* `Call.Legal`: the calls that can come from a built scope, and `Nests.legal`: they make legal calls;
* `acc_of_built`: from a built scope there is no endless chain of calls;
* `Call.Legal.ind`: induction along the calls.
-/

namespace Conform

/-! ## The depth of values -/

namespace Value

theorem depth_item {xs : List Value} {v : Value} (hv : v ∈ xs) : v.depth < (list xs).depth := by
  have h : v.depth ≤ depthItems xs := by
    induction xs with
    | nil => simp at hv
    | cons w r ih =>
      rw [depthItems]
      rcases List.mem_cons.1 hv with rfl | hv
      · exact Nat.le_max_left _ _
      · exact Nat.le_trans (ih hv) (Nat.le_max_right _ _)
  rw [depth]
  omega

theorem depth_entry {m : List (String × Value)} {e : String × Value} (he : e ∈ m) :
    e.2.depth < (record m).depth := by
  have h : e.2.depth ≤ depthFields m := by
    induction m with
    | nil => simp at he
    | cons w r ih =>
      rw [depthFields]
      rcases List.mem_cons.1 he with rfl | he
      · exact Nat.le_max_left _ _
      · exact Nat.le_trans (ih he) (Nat.le_max_right _ _)
  rw [depth]
  omega

theorem depth_find? {m : List (String × Value)} {k : String} {v : Value}
    (hv : Entries.find? k m = some v) : v.depth < (record m).depth :=
  depth_entry (Entries.mem_of_find? hv)

end Value

namespace Validate

theorem mem_of_undeclared {fs : List (Field Schema)} {m : List (String × Value)}
    {e : String × Value} (he : e ∈ undeclared fs m) : e ∈ m :=
  List.mem_of_mem_filter he

/-! ## Calls -/

/-- A call of the walk: a value meets a type, and the names in the type mean what they mean in the
scope. -/
structure Call where
  scope : Scope
  type : Schema
  value : Value

namespace Call

/-- The calls that the walk of a call can make. Whether it makes them depends on the outcomes of
those before: a branch is left out when an earlier one matches, and a field when an earlier one
fails. -/
inductive Nests : Call → Call → Prop
  | nullable {s t v} (hv : v.isNull = false) : Nests ⟨s, .nullable t, v⟩ ⟨s, t, v⟩
  | branch {s ts t v} (ht : t ∈ ts) : Nests ⟨s, .union ts, v⟩ ⟨s, t, v⟩
  | item {s t xs v} (hv : v ∈ xs) : Nests ⟨s, .array t, .list xs⟩ ⟨s, t, v⟩
  | field {s fs ex m f v} (hf : f ∈ fs) (hv : Entries.find? f.name m = some v) :
    Nests ⟨s, .record fs ex, .record m⟩ ⟨s, f.type, v⟩
  | extra {s fs t m e} (he : e ∈ undeclared fs m) :
    Nests ⟨s, .record fs (.typed t), .record m⟩ ⟨s, t, e.2⟩
  | base {s t cs v} : Nests ⟨s, .refined t cs, v⟩ ⟨s, t, v⟩
  | target {s n t h v} (hr : s.resolve n = some (t, h)) : Nests ⟨s, .ref n, v⟩ ⟨h, t, v⟩

/-- The call `d` comes up in the walk of `c`. -/
abbrev Reaches : Call → Call → Prop := Relation.ReflTransGen Nests

/-- A call that can come from a built scope. -/
structure Legal (c : Call) : Prop where
  built : c.scope.Built
  admits : c.scope.Admits c.type

variable {c d : Call}

/-- **What a nested call can be.** It is about a part of the type in the same scope, and then goes
deeper into the value or keeps in reach only names that were in reach without a guard; or it is about
the type that a name means, with the same value. -/
theorem Nests.cases (h : c.Nests d) :
    (d.scope = c.scope ∧ d.type ∈ c.type.parts ∧ (d.value.depth < c.value.depth ∨
      d.value = c.value ∧ d.type.unguarded ⊆ c.type.unguarded)) ∨
    (d.value = c.value ∧ ∃ n, c.type = .ref n ∧ c.scope.resolve n = some (d.type, d.scope)) := by
  cases h with
  | nullable hv => exact Or.inl ⟨rfl, by simp [Schema.parts], Or.inr ⟨rfl, by simp [Schema.unguarded]⟩⟩
  | branch ht =>
    refine Or.inl ⟨rfl, ht, Or.inr ⟨rfl, fun n hn => ?_⟩⟩
    simp only [Schema.unguarded, Schema.unguardedBranches_eq]
    exact List.mem_flatMap.2 ⟨_, ht, hn⟩
  | item hv => exact Or.inl ⟨rfl, by simp [Schema.parts], Or.inl (Value.depth_item hv)⟩
  | field hf hv => exact Or.inl ⟨rfl, Schema.field_mem_parts hf, Or.inl (Value.depth_find? hv)⟩
  | extra he =>
    exact Or.inl ⟨rfl, Schema.extras_mem_parts, Or.inl (Value.depth_entry (mem_of_undeclared he))⟩
  | base => exact Or.inl ⟨rfl, by simp [Schema.parts], Or.inr ⟨rfl, by simp [Schema.unguarded]⟩⟩
  | target hr => exact Or.inr ⟨rfl, _, rfl, hr⟩

/-- **The step lemma**: a legal call makes legal calls only. -/
theorem Nests.legal (h : c.Nests d) (hc : c.Legal) : d.Legal := by
  rcases h.cases with ⟨hs, hpart, -⟩ | ⟨-, n, -, hr⟩
  · exact ⟨hs ▸ hc.built, hs ▸ hc.admits.part hpart⟩
  · obtain ⟨hbuilt, -, hadmits, -⟩ := hc.built.home hr
    exact ⟨hbuilt, hadmits⟩

/-- **The run lemma**: all that comes up in the walk of a legal call is legal. -/
theorem Reaches.legal (h : c.Reaches d) (hc : c.Legal) : d.Legal := by
  induction h with
  | refl => exact hc
  | tail _ hstep ih => exact hstep.legal ih

/-- What comes up in the walk of a type in reach of a scope is in reach of it as well. -/
theorem Nests.reaches (h : c.Nests d) {s : Scope} (hc : s.Reaches c.scope c.type) :
    s.Reaches d.scope d.type := by
  rcases h.cases with ⟨hs, hpart, -⟩ | ⟨-, n, hn, hr⟩
  · exact hs ▸ hc.part hpart
  · exact (hn ▸ hc).target hr

/-- The calls that can come first: a name that has a meaning in a built scope. -/
theorem legal_ref {s : Scope} (hs : s.Built) {n : String} (hn : (s.resolve n).isSome) (v : Value) :
    Legal ⟨s, .ref n, v⟩ :=
  ⟨hs, Scope.admits_ref hn⟩

theorem Legal.target {s : Scope} {n : String} {v : Value} (hc : Legal ⟨s, .ref n, v⟩) :
    ∃ t h, s.resolve n = some (t, h) := by
  obtain ⟨⟨t, h⟩, hr⟩ := Option.isSome_iff_exists.1 (hc.admits.bound n (by simp [Schema.references]))
  exact ⟨t, h, hr⟩

/-! ## No endless chain -/

/-- Calls about one value come to an end when those about less deep values do. The bound `k` is on
the levels of the names in reach without a guard: it falls when a name is expanded, and in between
the type gets smaller. -/
theorem acc_of_deeper {v : Value} (deeper : ∀ (u : Value) (s : Scope) (t : Schema),
      u.depth < v.depth → s.Built → Acc (fun d c => Nests c d) ⟨s, t, u⟩)
    (k : Nat) {s : Scope} (hs : s.Built) (t : Schema) (hk : ∀ n ∈ t.unguarded, s.level n < k) :
    Acc (fun d c => Nests c d) ⟨s, t, v⟩ := by
  induction k using Nat.strong_induction_on generalizing s t with
  | _ k ih =>
    induction t using Schema.ind with
    | _ t parts =>
      refine Acc.intro _ fun ⟨s', t', u⟩ hd => ?_
      rcases hd.cases with ⟨rfl, hpart, hdeep | ⟨rfl, hsub⟩⟩ | ⟨rfl, n, rfl, hr⟩
      · exact deeper u _ t' hdeep hs
      · exact parts t' hpart fun n hn => hk n (hsub hn)
      · have hn : s.level n < k := hk n (by simp [Schema.unguarded])
        exact ih _ hn (hs.home hr).1 t' fun m hm => hs.level_lt hr hm

/-- **No endless chain of calls** starts in a built scope. -/
theorem acc_of_built {s : Scope} (hs : s.Built) (t : Schema) (v : Value) :
    Acc (fun d c => Nests c d) ⟨s, t, v⟩ := by
  induction hd : v.depth using Nat.strong_induction_on generalizing s t v with
  | _ d ih =>
    subst hd
    refine acc_of_deeper (fun u s' t' hlt hs' => ih _ hlt hs' t' u rfl) (s.size + 1) hs t ?_
    exact fun n _ => Nat.lt_succ_of_le (hs.level_le_size n)

/-- **Induction along the calls** of a legal call. -/
theorem Legal.ind {P : (c : Call) → c.Legal → Prop}
    (step : ∀ c (hc : c.Legal), (∀ d (hd : c.Nests d), P d (hd.legal hc)) → P c hc)
    (hc : c.Legal) : P c hc := by
  have hacc : Acc (fun d c => Nests c d) c := acc_of_built hc.built c.type c.value
  induction hacc with
  | intro c _ ih => exact step c hc fun d hd => ih d hd (hd.legal hc)

end Call

end Validate

end Conform
