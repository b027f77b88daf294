import Conform.Proofs.Scope.Built
import Conform.Proofs.Scope.Cycle

/-!
# Bindings that are accepted

`build` accepts the bindings that are well formed, and no others.

* `Schema.Contains t u`: the type `u` stands in `t`, at any depth;
* `Schema.Exposes t n`: the type `t` refers to `n` outside of all items and fields in it;
* `Builder.WellFormed`: what the checks of `build` are meant to ensure;
* `Scope.build_eq_ok`: what the checks find out, with the names looked up in the scope to be;
* `Scope.build_iff_wellFormed`: the main statement.
-/

namespace Conform

open Entries (keys)

/-! ## What stands in a type -/

namespace Schema

/-- The second type stands in the first, at any depth; a type stands in itself. -/
def Contains : Schema → Schema → Prop := Relation.ReflTransGen fun t u => u ∈ t.parts

/-- The type refers to a name without going into an item or a field. -/
inductive Exposes : Schema → String → Prop
  | ref (n) : Exposes (.ref n) n
  | nullable {t n} (h : Exposes t n) : Exposes (.nullable t) n
  | branch {ts t n} (ht : t ∈ ts) (h : Exposes t n) : Exposes (.union ts) n
  | base {t n} (cs) (h : Exposes t n) : Exposes (.refined t cs) n

variable {t : Schema} {n : String}

theorem contains_iff {u : Schema} : t.Contains u ↔ t = u ∨ ∃ w ∈ t.parts, w.Contains u :=
  Relation.ReflTransGen.cases_head_iff

theorem mem_references_iff : n ∈ t.references ↔ t.Contains (.ref n) := by
  induction t using ind with
  | _ t part =>
    rw [mem_references, contains_iff]
    exact or_congr_right (exists_congr fun u => and_congr_right fun hu => part u hu)

theorem repeatedField?_eq_none_iff : t.repeatedField? = none ↔
    ∀ fs ex, t.Contains (.record fs ex) → (fs.map (·.name)).Nodup := by
  induction t using ind with
  | _ t part =>
    rw [repeatedField?_eq_none]
    constructor
    · rintro ⟨hnames, hparts⟩ fs ex hin
      rcases contains_iff.1 hin with hrec | ⟨u, hu, hin⟩
      · exact hnames fs ex hrec
      · exact (part u hu).1 (hparts u hu) fs ex hin
    · intro h
      refine ⟨fun fs ex hrec => h fs ex (contains_iff.2 (Or.inl hrec)), fun u hu => ?_⟩
      exact (part u hu).2 fun fs ex hin => h fs ex (contains_iff.2 (Or.inr ⟨u, hu, hin⟩))

theorem mem_unguarded_iff : n ∈ t.unguarded ↔ t.Exposes n := by
  induction t using ind with
  | _ t part =>
    constructor
    · intro hn
      cases t with
      | ref m =>
        obtain rfl : n = m := by simpa [unguarded] using hn
        exact .ref n
      | nullable t => exact .nullable ((part t (by simp [parts])).1 hn)
      | refined t cs => exact .base cs ((part t (by simp [parts])).1 hn)
      | union ts =>
        simp only [unguarded, unguardedBranches_eq, List.mem_flatMap] at hn
        obtain ⟨u, hu, hn⟩ := hn
        exact .branch hu ((part u hu).1 hn)
      | _ => simp [unguarded] at hn
    · intro hn
      cases hn with
      | ref => simp [unguarded]
      | @nullable t _ hn => exact (part t (by simp [parts])).2 hn
      | @base t _ cs hn => exact (part t (by simp [parts])).2 hn
      | @branch ts u _ hu hn =>
        simp only [unguarded, unguardedBranches_eq, List.mem_flatMap]
        exact ⟨u, hu, (part u hu).2 hn⟩

end Schema

/-! ## Names in sight -/

/-- A name has a meaning in a scope when the scope or one around it binds the name. -/
theorem Scope.resolve_isSome_iff {n : String} :
    (s : Scope) → ((s.resolve n).isSome ↔ ∃ a ∈ s :: s.ancestors, n ∈ a.names)
  | ⟨nm, none, bs⟩ => by
    have hnone := Entries.find?_eq_none_iff n bs
    cases hn : Entries.find? n bs <;> simp_all [resolve, ancestors, names]
  | ⟨nm, some p, bs⟩ => by
    have ih := resolve_isSome_iff (n := n) p
    have hnone := Entries.find?_eq_none_iff n bs
    cases hn : Entries.find? n bs with
    | none =>
      have hnot : n ∉ keys bs := hnone.1 hn
      simpa [resolve, ancestors, names, hn, hnot] using ih
    | some t =>
      have hmem : n ∈ keys bs := Entries.mem_keys_of_find? hn
      simp [resolve, ancestors, names, hn, hmem]

namespace Builder

/-! ## Registering bindings -/

/-- Registers bindings one after the other. -/
def registerAll (b : Builder) (rs : List (String × Schema)) : Except DefinitionError Builder :=
  rs.foldlM (fun b e => b.register e.1 e.2) b

theorem register_eq_ok {b b' : Builder} {n : String} {t : Schema} : b.register n t = .ok b' ↔
    n ∉ keys b.bindings ∧ b' = ⟨b.name, b.parent, b.bindings ++ [(n, t)]⟩ := by
  unfold register
  split
  · rename_i hhas
    have hmem : n ∈ keys b.bindings := (Entries.has_iff_mem_keys n b.bindings).1 hhas
    simp [hmem]
  · rename_i hhas
    have hnew : n ∉ keys b.bindings := fun hmem => hhas ((Entries.has_iff_mem_keys n _).2 hmem)
    simp [hnew, eq_comm]

theorem registerAll_cons_eq_ok {b b' : Builder} {e : String × Schema} {rs : List (String × Schema)} :
    b.registerAll (e :: rs) = .ok b' ↔
      ∃ b₁, b.register e.1 e.2 = .ok b₁ ∧ b₁.registerAll rs = .ok b' := by
  rw [registerAll, List.foldlM_cons, Outcome.bind_eq_ok]
  rfl

/-- **What is registered**: new names, each of them once; the builder has the bindings behind those
that it had, in the order in which they came. -/
theorem registerAll_eq_ok {b b' : Builder} {rs : List (String × Schema)} :
    b.registerAll rs = .ok b' ↔ (keys rs).Nodup ∧ (∀ k ∈ keys rs, k ∉ keys b.bindings) ∧
      b' = ⟨b.name, b.parent, b.bindings ++ rs⟩ := by
  induction rs generalizing b with
  | nil => simp [registerAll, keys, pure, Except.pure, eq_comm]
  | cons e rs ih =>
    have hkeys : keys (e :: rs) = e.1 :: keys rs := rfl
    rw [registerAll_cons_eq_ok, hkeys, List.nodup_cons, List.forall_mem_cons]
    constructor
    · rintro ⟨b₁, hreg, hrest⟩
      obtain ⟨hnew, rfl⟩ := register_eq_ok.1 hreg
      obtain ⟨hnodup, hfresh, rfl⟩ := ih.1 hrest
      simp only [Entries.keys_append, List.mem_append, not_or] at hfresh
      refine ⟨⟨fun hmem => (hfresh e.1 hmem).2 (by simp [keys]), hnodup⟩,
        ⟨hnew, fun k hk => (hfresh k hk).1⟩, by simp⟩
    · rintro ⟨⟨hnot, hnodup⟩, ⟨hnew, hfresh⟩, rfl⟩
      refine ⟨_, register_eq_ok.2 ⟨hnew, rfl⟩, ih.2 ⟨hnodup, fun k hk => ?_, by simp⟩⟩
      simp only [Entries.keys_append, List.mem_append, not_or]
      refine ⟨hfresh k hk, fun hmem => hnot ?_⟩
      obtain rfl : k = e.1 := by simpa [keys] using hmem
      exact hk

/-! ## Well-formed bindings -/

/-- The first name is bound to a type that refers, without a guard, to the second, which is bound as
well. -/
def Leads (b : Builder) (n m : String) : Prop :=
  ∃ t, Entries.find? n b.bindings = some t ∧ t.Exposes m ∧ m ∈ keys b.bindings

/-- The name is bound by the builder or by a scope around. -/
def Binds (b : Builder) (n : String) : Prop :=
  n ∈ keys b.bindings ∨ ∃ p, b.parent = some p ∧ ∃ a ∈ p :: p.ancestors, n ∈ a.names

/-- **Well-formed bindings**: records in them, at any depth, have fields of distinct names; the names
that stand in them, at any depth, are bound; and no name leads back to itself without a guard. -/
structure WellFormed (b : Builder) : Prop where
  declared : ∀ n t, (n, t) ∈ b.bindings → ∀ fs ex, t.Contains (.record fs ex) →
    (fs.map (·.name)).Nodup
  bound : ∀ n t, (n, t) ∈ b.bindings → ∀ m, t.Contains (.ref m) → b.Binds m
  acyclic : ∀ n, ¬ Relation.TransGen b.Leads n n

variable {b : Builder}

theorem binds_iff {n : String} : b.Binds n ↔ (b.scope.resolve n).isSome := by
  have hancestors : b.scope.ancestors = b.parent.elim [] fun p => p :: p.ancestors := by
    obtain ⟨nm, _ | p, bs⟩ := b
    · simp [scope, Scope.ancestors]
    · simp [scope, Scope.ancestors]
  rw [Scope.resolve_isSome_iff, Binds, hancestors]
  cases b.parent with
  | none => simp [scope, Scope.names]
  | some p => simp [scope, Scope.names]

theorem refers_edges_iff {n m : String} : Cycle.Refers (Cycle.edges b.bindings) n m ↔ b.Leads n m := by
  simp only [Cycle.Refers, Cycle.mem_next_edges, Schema.mem_unguarded_iff, Leads]

theorem acyclic_edges_iff :
    Cycle.Acyclic (Cycle.edges b.bindings) ↔ ∀ n, ¬ Relation.TransGen b.Leads n n := by
  have hrel : Cycle.Refers (Cycle.edges b.bindings) = b.Leads :=
    funext₂ fun n m => propext refers_edges_iff
  rw [Cycle.Acyclic, hrel]

theorem admits_iff {t : Schema} : b.scope.Admits t ↔
    (∀ m, t.Contains (.ref m) → b.Binds m) ∧
      ∀ fs ex, t.Contains (.record fs ex) → (fs.map (·.name)).Nodup := by
  constructor
  · rintro ⟨hbound, hdeclared⟩
    refine ⟨fun m hm => binds_iff.2 (hbound m (Schema.mem_references_iff.2 hm)), ?_⟩
    exact Schema.repeatedField?_eq_none_iff.1 hdeclared
  · rintro ⟨hbound, hdeclared⟩
    refine ⟨fun m hm => binds_iff.1 (hbound m (Schema.mem_references_iff.1 hm)), ?_⟩
    exact Schema.repeatedField?_eq_none_iff.2 hdeclared

theorem wellFormed_iff : b.WellFormed ↔
    (∀ e ∈ b.bindings, b.scope.Admits e.2) ∧ Cycle.Acyclic (Cycle.edges b.bindings) := by
  constructor
  · rintro ⟨hdeclared, hbound, hacyclic⟩
    refine ⟨fun e he => admits_iff.2 ⟨?_, ?_⟩, acyclic_edges_iff.2 hacyclic⟩
    · exact hbound e.1 e.2 he
    · exact hdeclared e.1 e.2 he
  · rintro ⟨hadmits, hacyclic⟩
    refine ⟨fun n t ht => ?_, fun n t ht => ?_, acyclic_edges_iff.1 hacyclic⟩
    · exact (admits_iff.1 (hadmits (n, t) ht)).2
    · exact (admits_iff.1 (hadmits (n, t) ht)).1

end Builder

/-! ## What is built -/

namespace Scope

variable {b : Builder}

theorem checkBinding_of_admits {t : Schema} (h : b.scope.Admits t) (n : String) :
    b.checkBinding n t = .ok () := by
  have hrefs : t.references.find? (!b.knows ·) = none := by
    refine List.find?_eq_none.2 fun m hm => ?_
    have hknown : b.knows m = true := (knows_eq b m).trans (h.bound m hm)
    simp [hknown]
  rw [Builder.checkBinding, h.declared, hrefs]

/-- **What the checks find out**: the scope to be admits every type, and the search for cycles finds
none. The scope has the bindings as they are. -/
theorem build_eq_ok {s : Scope} : b.build = .ok s ↔ s = b.scope ∧
    (∀ e ∈ b.bindings, b.scope.Admits e.2) ∧ Cycle.Acyclic (Cycle.edges b.bindings) := by
  constructor
  · intro hb
    obtain ⟨rfl, hcheck, hcycle⟩ := build_ok hb
    exact ⟨rfl, fun e he => admits_of_checkBinding (hcheck e he), Cycle.find?_eq_none_iff.1 hcycle⟩
  · rintro ⟨rfl, hadmits, hacyclic⟩
    have hall : b.checkAll b.bindings = .ok () :=
      checkAll_ok.2 fun e he => checkBinding_of_admits (hadmits e he) e.1
    rw [Builder.build, hall, Cycle.find?_eq_none_iff.2 hacyclic]
    rfl

/-- **What is well formed is built**, as it is. -/
theorem build_of_admits (hadmits : ∀ e ∈ b.bindings, b.scope.Admits e.2) {r : String → Nat}
    (hr : Cycle.IsRank b.bindings r) : b.build = .ok b.scope :=
  build_eq_ok.2 ⟨rfl, hadmits, hr.acyclic⟩

theorem build_eq_ok_iff {s : Scope} : b.build = .ok s ↔ b.WellFormed ∧ s = b.scope := by
  rw [build_eq_ok, Builder.wellFormed_iff, and_comm]

/-- **Exactly the well-formed bindings are accepted**, in any scope or in none. The scope that is
built has the name of the builder, stands where the builder stands and has its bindings; and if these
were registered one after the other, it has them in this order. -/
theorem build_iff_wellFormed (b : Builder) :
    ((∃ s, b.build = .ok s) ↔ b.WellFormed) ∧
    ∀ s, b.build = .ok s → (s.name = b.name ∧ s.parent = b.parent ∧ s.bindings = b.bindings) ∧
      ∀ name parent rs, (Builder.empty name parent).registerAll rs = .ok b →
        s.name = name ∧ s.parent = parent ∧ s.bindings = rs := by
  refine ⟨⟨?_, fun h => ⟨b.scope, build_eq_ok_iff.2 ⟨h, rfl⟩⟩⟩, fun s hs => ?_⟩
  · rintro ⟨s, hs⟩
    exact (build_eq_ok_iff.1 hs).1
  · obtain ⟨-, rfl⟩ := build_eq_ok_iff.1 hs
    refine ⟨⟨rfl, rfl, rfl⟩, fun name parent rs hrs => ?_⟩
    obtain ⟨-, -, rfl⟩ := Builder.registerAll_eq_ok.1 hrs
    exact ⟨rfl, rfl, rfl⟩

end Scope

/-- Two names that may stand for each other, without a guard. -/
def Builder.maze : Builder where
  name := "maze"
  parent := none
  bindings := [("Path", .union [.primitive .int, .ref "Turn"]), ("Turn", .nullable (.ref "Path"))]

/-- Walks through trees are well formed: they lead back to themselves through items only. The ways of
a maze are not. -/
theorem Scope.build_iff_wellFormed_park :
    Builder.park.WellFormed ∧ ¬ Builder.maze.WellFormed ∧
    (Builder.empty "park" (some Builder.grove.scope)).registerAll Builder.park.bindings =
      .ok Builder.park ∧
    Builder.park.build = .ok Builder.park.scope ∧
    Builder.park.scope.parent = some Builder.grove.scope := by
  have hpark : Builder.park.build = .ok Builder.park.scope := rfl
  have hmaze : Builder.maze.build = .error (.unguardedRecursion ["Path", "Turn", "Path"]) := rfl
  have hall : (Builder.empty "park" (some Builder.grove.scope)).registerAll Builder.park.bindings =
      .ok Builder.park := rfl
  obtain ⟨hiff, hscope⟩ := build_iff_wellFormed Builder.park
  refine ⟨hiff.1 ⟨_, hpark⟩, fun h => ?_, hall, hpark, ((hscope _ hpark).2 _ _ _ hall).2.1⟩
  obtain ⟨s, hs⟩ := (build_iff_wellFormed Builder.maze).1.2 h
  cases hmaze.symm.trans hs

end Conform
