import Conform.Proofs.Entries
import Conform.Proofs.Schema
import Conform.Proofs.Scope.Order
import Conform.Scope.Builder

/-!
# Built scopes

* `Scope.Built s`: `s` and all scopes around it came out of a successful `build`;
* `Scope.Admits s t`: what `build` checks of one type, every name it refers to means something in `s`
  and no record in it declares a field twice;
* `Built.home`: the type that a name means is admitted by the scope that binds it, which is built;
* `Scope.level`: a number for every name that falls along unguarded references, from scope to scope.
-/

namespace Conform

namespace Scope

open Entries (keys)

/-- A scope that was built, inside no scope or inside a built one. -/
inductive Built : Scope → Prop
  | root {b : Builder} {s : Scope} (hp : b.parent = none) (hb : b.build = .ok s) : Built s
  | nested {b : Builder} {s p : Scope} (hp : b.parent = some p) (hparent : Built p)
      (hb : b.build = .ok s) : Built s

/-- The type can be walked in the scope: the names in it have a meaning, and no record in it declares
a field twice. -/
structure Admits (s : Scope) (t : Schema) : Prop where
  bound : ∀ n ∈ t.references, (s.resolve n).isSome
  declared : t.repeatedField? = none

/-! ## Looking up names -/

section Resolve

variable {s h : Scope} {n : String} {t : Schema}

/-- A name means what it is bound to here, or else what it means in the scope around. -/
theorem resolve_cases (hr : s.resolve n = some (t, h)) :
    (Entries.find? n s.bindings = some t ∧ h = s) ∨
    (Entries.find? n s.bindings = none ∧ ∃ p, s.parent = some p ∧ p.resolve n = some (t, h)) := by
  obtain ⟨nm, _ | p, bs⟩ := s
  · simp only [resolve, Option.map_eq_some_iff, Prod.mk.injEq] at hr
    obtain ⟨t', ht, rfl, rfl⟩ := hr
    exact Or.inl ⟨ht, rfl⟩
  · simp only [resolve] at hr
    split at hr
    · rename_i t' ht
      obtain ⟨rfl, rfl⟩ : t' = t ∧ _ = h := by simpa using hr
      exact Or.inl ⟨ht, rfl⟩
    · rename_i hn
      exact Or.inr ⟨hn, p, rfl, hr⟩

theorem resolve_of_find? (hn : Entries.find? n s.bindings = some t) : s.resolve n = some (t, s) := by
  obtain ⟨nm, _ | p, bs⟩ := s
  · simp only [resolve, show Entries.find? n bs = some t from hn, Option.map_some]
  · simp only [resolve, show Entries.find? n bs = some t from hn]

/-- A name that a scope does not bind means what it means around the scope. -/
theorem resolve_of_notMem {p : Scope} (hp : s.parent = some p) (hn : n ∉ s.names) :
    s.resolve n = p.resolve n := by
  obtain ⟨nm, parent, bs⟩ := s
  obtain rfl : parent = some p := hp
  rw [resolve, (Entries.find?_eq_none_iff n bs).2 hn]

theorem lookup_isSome : (s.lookup n).isSome = (s.resolve n).isSome := by
  simp [lookup]

/-- A scope has validators for the names that mean something in it. -/
theorem compile_eq (s : Scope) (n : String) :
    s.compile n = if (s.resolve n).isSome then .ok ⟨s, n⟩ else .error (.notDefined s.name n) := by
  rw [← lookup_isSome, compile]
  cases s.lookup n <;> rfl

/-- The number of bindings in all scopes around. -/
def outer (s : Scope) : Nat :=
  match s.parent with
  | some p => p.size
  | none => 0

theorem size_eq (s : Scope) : s.size = s.bindings.length + s.outer := by
  obtain ⟨nm, _ | p, bs⟩ := s
  · simp [size, outer]
  · simp [size, outer]

theorem size_le_of_parent {p : Scope} (hp : s.parent = some p) : p.size ≤ s.size := by
  rw [size_eq s, outer, hp]
  exact Nat.le_add_left _ _

end Resolve

/-! ## What a build checks -/

section Build

variable {b : Builder} {s : Scope}

theorem checkAll_ok {bs : List (String × Schema)} :
    b.checkAll bs = .ok () ↔ ∀ e ∈ bs, b.checkBinding e.1 e.2 = .ok () := by
  induction bs with
  | nil => simp [Builder.checkAll]
  | cons e r ih =>
    simp only [Builder.checkAll, Outcome.bind_eq_ok, ih, List.forall_mem_cons]
    exact ⟨fun ⟨_, he, hr⟩ => ⟨he, hr⟩, fun ⟨he, hr⟩ => ⟨(), he, hr⟩⟩

/-- A build gives the bindings as they are; every one passed its check, and there is no unguarded
cycle. -/
theorem build_ok (hb : b.build = .ok s) : s = ⟨b.name, b.parent, b.bindings⟩ ∧
    (∀ e ∈ b.bindings, b.checkBinding e.1 e.2 = .ok ()) ∧ Cycle.find? b.bindings = none := by
  obtain ⟨_, hcheck, hb⟩ := Outcome.bind_eq_ok.1 hb
  cases hc : Cycle.find? b.bindings with
  | some c => simp [hc, throw, throwThe, MonadExceptOf.throw] at hb
  | none =>
    simp only [hc, pure, Except.pure, Except.ok.injEq] at hb
    exact ⟨hb.symm, checkAll_ok.1 hcheck, rfl⟩

/-- The builder knows a name when the scope it builds gives the name a meaning. -/
theorem knows_eq (b : Builder) (n : String) :
    b.knows n = (resolve n ⟨b.name, b.parent, b.bindings⟩).isSome := by
  have hhas : Entries.has n b.bindings = (Entries.find? n b.bindings).isSome := by
    cases hn : Entries.find? n b.bindings with
    | none => simpa [Entries.has_iff_mem_keys, Bool.eq_false_iff] using
        (Entries.find?_eq_none_iff n b.bindings).1 hn
    | some t =>
      by_contra hne
      have : n ∉ keys b.bindings := by
        simpa [Entries.has_iff_mem_keys, Bool.eq_false_iff] using hne
      simp [(Entries.find?_eq_none_iff n b.bindings).2 this] at hn
  unfold Builder.knows
  cases hp : b.parent with
  | none => simp [resolve, hhas]
  | some p =>
    cases hn : Entries.find? n b.bindings with
    | some t => simp [resolve, hhas, hn]
    | none => simp [resolve, hhas, hn, lookup_isSome]

theorem admits_of_checkBinding {n : String} {t : Schema} (hc : b.checkBinding n t = .ok ()) :
    Admits ⟨b.name, b.parent, b.bindings⟩ t := by
  unfold Builder.checkBinding at hc
  split at hc
  · simp at hc
  · rename_i hrep
    split at hc
    · simp at hc
    · rename_i hrefs
      refine ⟨fun m hm => ?_, hrep⟩
      rw [← knows_eq]
      simpa using List.find?_eq_none.1 hrefs m hm

end Build

/-! ## Admitted types -/

section Admits

variable {s : Scope} {t u : Schema}

theorem Admits.part (h : s.Admits t) (hu : u ∈ t.parts) : s.Admits u where
  bound n hn := h.bound n (Schema.references_of_part hu hn)
  declared := (Schema.repeatedField?_eq_none.1 h.declared).2 u hu

theorem Admits.unguarded (h : s.Admits t) {n : String} (hn : n ∈ t.unguarded) :
    (s.resolve n).isSome :=
  h.bound n (t.unguarded_subset_references hn)

theorem Admits.names_nodup {fs : List (Field Schema)} {ex : Extras Schema}
    (h : s.Admits (.record fs ex)) : (fs.map (·.name)).Nodup :=
  (Schema.repeatedField?_eq_none.1 h.declared).1 fs ex rfl

theorem admits_ref {n : String} (h : (s.resolve n).isSome) : s.Admits (.ref n) where
  bound m hm := by
    obtain rfl : m = n := by simpa [Schema.references] using hm
    exact h
  declared := by simp [Schema.repeatedField?]

end Admits

/-! ## Built scopes -/

section Built

variable {s h p : Scope} {n m : String} {t : Schema}

theorem Built.parent (hs : s.Built) (hp : s.parent = some p) : p.Built := by
  cases hs with
  | root hnone hb =>
    obtain ⟨rfl, -, -⟩ := build_ok hb
    simp [hnone] at hp
  | nested hsome hparent hb =>
    obtain ⟨rfl, -, -⟩ := build_ok hb
    obtain rfl := Option.some.inj (hsome.symm.trans hp)
    exact hparent

/-- **Induction on built scopes**, from the scope around to the scope. -/
theorem Built.ind {P : (s : Scope) → s.Built → Prop}
    (step : ∀ s (hs : s.Built), (∀ p (hp : s.parent = some p), P p (hs.parent hp)) → P s hs)
    (hs : s.Built) : P s hs := by
  induction hs with
  | root hnone hb =>
    refine step _ _ fun p hp => ?_
    obtain ⟨rfl, -, -⟩ := build_ok hb
    simp [hnone] at hp
  | nested hsome hparent hb ih =>
    refine step _ _ fun p hp => ?_
    obtain ⟨rfl, -, -⟩ := build_ok hb
    obtain rfl := Option.some.inj (hsome.symm.trans hp)
    exact ih

theorem Built.build (hs : s.Built) : ∃ b : Builder, b.build = .ok s := by
  cases hs with
  | root _ hb => exact ⟨_, hb⟩
  | nested _ _ hb => exact ⟨_, hb⟩

theorem Built.admits_of_mem (hs : s.Built) (hmem : (n, t) ∈ s.bindings) : s.Admits t := by
  obtain ⟨b, hb⟩ := hs.build
  obtain ⟨rfl, hcheck, -⟩ := build_ok hb
  exact admits_of_checkBinding (hcheck (n, t) hmem)

theorem Built.admits (hs : s.Built) (hn : Entries.find? n s.bindings = some t) : s.Admits t :=
  hs.admits_of_mem (Entries.mem_of_find? hn)

theorem Built.exists_rank (hs : s.Built) : ∃ r, Cycle.IsRank s.bindings r := by
  obtain ⟨b, hb⟩ := hs.build
  obtain ⟨rfl, -, hcycle⟩ := build_ok hb
  exact Cycle.exists_rank hcycle

/-- **The home of a type.** A name of a built scope is bound in a built scope that is not larger and
that admits the type. -/
theorem Built.home (hs : s.Built) (hr : s.resolve n = some (t, h)) :
    h.Built ∧ Entries.find? n h.bindings = some t ∧ h.Admits t ∧ h.size ≤ s.size := by
  induction hs using Built.ind with
  | _ s hs around =>
    rcases resolve_cases hr with ⟨hn, rfl⟩ | ⟨-, p, hp, hr'⟩
    · exact ⟨hs, hn, hs.admits hn, Nat.le_refl _⟩
    · obtain ⟨h1, h2, h3, h4⟩ := around p hp hr'
      exact ⟨h1, h2, h3, Nat.le_trans h4 (size_le_of_parent hp)⟩

end Built

/-- The scope that binds nothing. -/
def void : Scope := ⟨"", none, []⟩

theorem void_built : void.Built := .root (b := .empty "" none) rfl rfl

theorem size_void : void.size = 0 := rfl

/-! ## The types in reach of a scope -/

/-- The types that are walked from the names of a scope, each with the scope it is walked in. -/
inductive Reaches (s : Scope) : Scope → Schema → Prop
  | name {n} (hn : (s.resolve n).isSome) : Reaches s s (.ref n)
  | part {h t u} (ht : Reaches s h t) (hu : u ∈ t.parts) : Reaches s h u
  | target {h n t h'} (hn : Reaches s h (.ref n)) (hr : h.resolve n = some (t, h')) :
    Reaches s h' t

/-- All types in reach of a built scope are walked in built scopes that admit them. -/
theorem Reaches.admits {s h : Scope} {t : Schema} (ht : s.Reaches h t) (hs : s.Built) :
    h.Built ∧ h.Admits t := by
  induction ht with
  | name hn => exact ⟨hs, admits_ref hn⟩
  | part _ hu ih => exact ⟨ih.1, ih.2.part hu⟩
  | target _ hr ih =>
    obtain ⟨hbuilt, -, hadmits, -⟩ := ih.1.home hr
    exact ⟨hbuilt, hadmits⟩

/-- The types that are walked from one type, each with the scope it is walked in. -/
inductive Visits (s : Scope) (t : Schema) : Scope → Schema → Prop
  | start : Visits s t s t
  | part {h u w} (hu : Visits s t h u) (hw : w ∈ u.parts) : Visits s t h w
  | target {h n u h'} (hn : Visits s t h (.ref n)) (hr : h.resolve n = some (u, h')) :
    Visits s t h' u

theorem Reaches.visits {s h : Scope} {t : Schema} (ht : s.Reaches h t) :
    ∃ n, (s.resolve n).isSome ∧ s.Visits (.ref n) h t := by
  induction ht with
  | @name n hn => exact ⟨n, hn, .start⟩
  | part _ hu ih =>
    obtain ⟨n, hn, hvisits⟩ := ih
    exact ⟨n, hn, .part hvisits hu⟩
  | target _ hr ih =>
    obtain ⟨n, hn, hvisits⟩ := ih
    exact ⟨n, hn, .target hvisits hr⟩

section Closed

variable {s h : Scope} {t u : Schema} {ts : List Schema} (hroot : s.parent = none)
  (hparts : ∀ t ∈ ts, ∀ u ∈ t.parts, u ∈ ts)

include hroot hparts

/-- From a type of a list, only types of the list are walked, when the list has all parts of its types
and all types that the names stand for. -/
theorem Visits.mem (hbound : ∀ e ∈ s.bindings, e.2 ∈ ts) (ht : t ∈ ts) (hu : s.Visits t h u) :
    h = s ∧ u ∈ ts := by
  induction hu with
  | start => exact ⟨rfl, ht⟩
  | part _ hw ih => exact ⟨ih.1, hparts _ ih.2 _ hw⟩
  | target _ hr ih =>
    rw [ih.1] at hr
    rcases resolve_cases hr with ⟨hn, hh⟩ | ⟨-, p, hp, -⟩
    · exact ⟨hh, hbound _ (Entries.mem_of_find? hn)⟩
    · simp [hroot] at hp

/-- The types in reach are in a list that has the names too. -/
theorem Reaches.mem (hbound : ∀ e ∈ s.bindings, .ref e.1 ∈ ts ∧ e.2 ∈ ts) (ht : s.Reaches h t) :
    t ∈ ts := by
  obtain ⟨n, hn, hvisits⟩ := ht.visits
  obtain ⟨⟨u, h'⟩, hr⟩ := Option.isSome_iff_exists.1 hn
  rcases resolve_cases hr with ⟨hn, -⟩ | ⟨-, p, hp, -⟩
  · have hname : .ref n ∈ ts := (hbound _ (Entries.mem_of_find? hn)).1
    exact (hvisits.mem hroot hparts (fun e he => (hbound e he).2) hname).2
  · simp [hroot] at hp

end Closed

/-! ## Levels -/

/-- A rank of the bound names, for bindings that have one. -/
noncomputable def rank (bs : List (String × Schema)) : String → Nat :=
  Classical.epsilon (Cycle.IsRank bs)

/-- The level of a name: its rank where it is bound, above all levels of the scopes around. -/
noncomputable def level (n : String) : Scope → Nat
  | ⟨_, none, bs⟩ => if n ∈ keys bs then rank bs n else 0
  | ⟨_, some p, bs⟩ => if n ∈ keys bs then p.size + rank bs n else p.level n

section Level

variable {s h p : Scope} {n m : String} {t : Schema}

theorem level_of_mem (hn : n ∈ keys s.bindings) : s.level n = s.outer + rank s.bindings n := by
  obtain ⟨nm, _ | p, bs⟩ := s
  · simp_all [level, outer]
  · simp_all [level, outer]

theorem level_of_parent (hp : s.parent = some p) (hn : n ∉ keys s.bindings) :
    s.level n = p.level n := by
  obtain ⟨nm, _ | p', bs⟩ := s
  · simp at hp
  · simp_all [level]

theorem level_of_root (hp : s.parent = none) (hn : n ∉ keys s.bindings) : s.level n = 0 := by
  obtain ⟨nm, _ | p, bs⟩ := s
  · simp_all [level]
  · simp at hp

theorem Built.isRank (hs : s.Built) : Cycle.IsRank s.bindings (rank s.bindings) :=
  Classical.epsilon_spec hs.exists_rank

/-- The level of a name that is bound further out stays within the scopes around. -/
theorem level_le_outer (around : ∀ p, s.parent = some p → p.level n ≤ p.size)
    (hn : n ∉ keys s.bindings) : s.level n ≤ s.outer := by
  cases hp : s.parent with
  | none => simp [level_of_root hp hn]
  | some p =>
    rw [level_of_parent hp hn, outer, hp]
    exact around p hp

theorem Built.level_le_size (hs : s.Built) (n : String) : s.level n ≤ s.size := by
  induction hs using Built.ind with
  | _ s hs around =>
    rw [size_eq]
    by_cases hn : n ∈ keys s.bindings
    · have := hs.isRank.le n
      rw [level_of_mem hn]
      omega
    · have := level_le_outer around hn
      omega

/-- A name has the same level where it is used and where it is bound. -/
theorem Built.level_home (hs : s.Built) (hr : s.resolve n = some (t, h)) : s.level n = h.level n := by
  induction hs using Built.ind with
  | _ s hs around =>
    rcases resolve_cases hr with ⟨-, rfl⟩ | ⟨hn, p, hp, hr'⟩
    · rfl
    · rw [level_of_parent hp ((Entries.find?_eq_none_iff n _).1 hn)]
      exact around p hp hr'

/-- The level of a name is above those of all names further out. -/
theorem Built.outer_lt_level (hs : s.Built) (hr : s.resolve n = some (t, h)) :
    h.outer < s.level n := by
  obtain ⟨hh, hn, -, -⟩ := hs.home hr
  have := hh.isRank.pos hn
  rw [hs.level_home hr, level_of_mem (Entries.mem_keys_of_find? hn)]
  omega

/-- **An unguarded reference goes down.** -/
theorem Built.level_lt (hs : s.Built) (hr : s.resolve n = some (t, h)) (hm : m ∈ t.unguarded) :
    h.level m < s.level n := by
  obtain ⟨hh, hn, -, -⟩ := hs.home hr
  by_cases hmk : m ∈ keys h.bindings
  · have := hh.isRank.lt hn hm hmk
    rw [hs.level_home hr, level_of_mem (Entries.mem_keys_of_find? hn), level_of_mem hmk]
    omega
  · have hle := level_le_outer (fun p hp => (hh.parent hp).level_le_size m) hmk
    exact Nat.lt_of_le_of_lt hle (hs.outer_lt_level hr)

end Level

end Scope

/-! ## An example: a tree of leaves, and a scope around it where a leaf is something else -/

namespace Builder

/-- The scope that a builder makes when its checks pass. -/
def scope (b : Builder) : Scope := ⟨b.name, b.parent, b.bindings⟩

/-- Trees with whole numbers at their leaves. -/
def grove : Builder where
  name := "grove"
  parent := none
  bindings :=
    [("Leaf", .primitive .int),
     ("Tree", .record [⟨"leaf", .ref "Leaf", false⟩, ⟨"kids", .array (.ref "Tree"), false⟩] .closed)]

/-- Walks through trees; a leaf is a text here, but not in the trees. -/
def park : Builder where
  name := "park"
  parent := some grove.scope
  bindings :=
    [("Leaf", .primitive .string),
     ("Walk", .union [.ref "Tree", .nullable (.ref "Leaf"), .array (.ref "Walk")])]

theorem grove_built : grove.scope.Built := .root rfl (b := grove) rfl

theorem park_built : park.scope.Built := .nested rfl grove_built (b := park) rfl

end Builder

end Conform
