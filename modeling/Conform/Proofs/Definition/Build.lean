import Conform.Definition.Lower
import Conform.Pattern.Parser
import Conform.Proofs.Scope.Accepted
import Conform.Proofs.Validate.Rebound
import Mathlib.Data.List.Perm.Basic

/-!
# Scopes built from definitions

Definitions are taken one after the other: each is made a type and registered, and the first that
fails ends it; what is left is built. All the same their order does not matter, because bindings are
looked up by name and `build` accepts what is well formed, in whatever order it looks at the bindings.

* `Builder.define_eq_ok`: definitions are taken when they stand for types and have new names;
* `Builder.WellFormed.perm`: the same bindings in another order are well formed as well;
* `Builder.definition_order_ignored`: the main statement.
-/

namespace Conform

open Entries (keys)

namespace Builder

/-! ## Taking definitions -/

section Take

variable [PatternEngine]

/-- The binding is what the definition stands for. -/
def StandsFor (d : TypeDefinition) (e : String × Schema) : Prop :=
  e.1 = d.name ∧ d.type.lower = .ok e.2

/-- **Definitions are taken** when each of them stands for a type, and the bindings that they stand for
can be registered. -/
theorem define_eq_ok {b b' : Builder} {ds : List TypeDefinition} :
    b.define ds = .ok b' ↔ ∃ es, List.Forall₂ StandsFor ds es ∧ b.registerAll es = .ok b' := by
  induction ds generalizing b with
  | nil =>
    simp only [define, List.forall₂_nil_left_iff, exists_eq_left]
    rfl
  | cons d ds ih =>
    have hstep : b.define (d :: ds) = .ok b' ↔ ∃ t, d.type.lower = .ok t ∧
        ∃ b₁, b.register d.name t = .ok b₁ ∧ b₁.define ds = .ok b' := by
      simp only [define, Outcome.bind_eq_ok]
    rw [hstep]
    constructor
    · rintro ⟨t, ht, b₁, hreg, hdefine⟩
      obtain ⟨es, hes, hall⟩ := ih.1 hdefine
      exact ⟨(d.name, t) :: es, .cons ⟨rfl, ht⟩ hes, registerAll_cons_eq_ok.2 ⟨b₁, hreg, hall⟩⟩
    · rintro ⟨es, hes, hall⟩
      obtain ⟨⟨n, t⟩, rest, ⟨rfl, ht⟩, hrest, rfl⟩ := List.forall₂_cons_left_iff.1 hes
      obtain ⟨b₁, hreg, hall⟩ := registerAll_cons_eq_ok.1 hall
      exact ⟨t, ht, b₁, hreg, ih.2 ⟨rest, hrest, hall⟩⟩

/-- The builder with further bindings. -/
def extend (b : Builder) (es : List (String × Schema)) : Builder :=
  ⟨b.name, b.parent, b.bindings ++ es⟩

/-- **Definitions are built** when they stand for bindings of new and distinct names that are well
formed, together with those that the builder had. -/
theorem buildFrom_eq_ok {b : Builder} {d : Definitions} {s : Scope} : b.buildFrom d = .ok s ↔
    ∃ es, List.Forall₂ StandsFor d.types es ∧ (keys es).Nodup ∧
      (∀ k ∈ keys es, k ∉ keys b.bindings) ∧ (b.extend es).WellFormed ∧ s = (b.extend es).scope := by
  have hstep : b.buildFrom d = .ok s ↔ ∃ b', b.define d.types = .ok b' ∧ b'.build = .ok s :=
    Outcome.bind_eq_ok
  rw [hstep]
  constructor
  · rintro ⟨b', hdefine, hbuild⟩
    obtain ⟨es, hes, hall⟩ := define_eq_ok.1 hdefine
    obtain ⟨hnodup, hnew, rfl⟩ := registerAll_eq_ok.1 hall
    exact ⟨es, hes, hnodup, hnew, Scope.build_eq_ok_iff.1 hbuild⟩
  · rintro ⟨es, hes, hnodup, hnew, hbuild⟩
    refine ⟨b.extend es, define_eq_ok.2 ⟨es, hes, ?_⟩, Scope.build_eq_ok_iff.2 hbuild⟩
    exact registerAll_eq_ok.2 ⟨hnodup, hnew, rfl⟩

end Take

/-! ## Another order -/

section Perm

variable {b : Builder} {es es' : List (String × Schema)}

theorem find?_extend (hes : es.Perm es') (hnodup : (keys es).Nodup) (k : String) :
    Entries.find? k (b.extend es').bindings = Entries.find? k (b.extend es).bindings := by
  rw [extend, extend, Entries.find?_append, Entries.find?_append, Entries.find?_perm hes hnodup]

theorem bindings_extend_perm (hes : es.Perm es') :
    (b.extend es).bindings.Perm (b.extend es').bindings :=
  hes.append_left b.bindings

/-- **The same bindings in another order are well formed**: they contain the same types, bind the same
names and lead from name to name in the same way. -/
theorem WellFormed.perm (h : (b.extend es).WellFormed) (hes : es.Perm es')
    (hnodup : (keys es).Nodup) : (b.extend es').WellFormed := by
  have hperm := bindings_extend_perm (b := b) hes
  have hkeys : ∀ {k}, k ∈ keys (b.extend es').bindings ↔ k ∈ keys (b.extend es).bindings :=
    ((hperm.map _).mem_iff).symm
  refine ⟨fun n t ht => h.declared n t (hperm.mem_iff.2 ht), fun n t ht m hm => ?_, fun n hn => ?_⟩
  · exact (h.bound n t (hperm.mem_iff.2 ht) m hm).imp_left hkeys.2
  · have hle : (b.extend es').Leads ≤ (b.extend es).Leads := by
      rintro x y ⟨t, ht, hexposes, hy⟩
      exact ⟨t, find?_extend hes hnodup x ▸ ht, hexposes, hkeys.1 hy⟩
    exact h.acyclic n (Relation.TransGen.mono hle n n hn)

/-- The scopes of the same bindings in another order give every name the same meaning. -/
theorem rebinds_extend (hes : es.Perm es') (hnodup : (keys es).Nodup) :
    (b.extend es).scope.Rebinds (· = ·) (b.extend es').scope where
  parent := rfl
  bindings k := by
    have hfind : Entries.find? k (b.extend es').scope.bindings =
        Entries.find? k (b.extend es).scope.bindings := find?_extend hes hnodup k
    rw [hfind]
    cases Entries.find? k (b.extend es).scope.bindings with
    | none => exact Or.inl ⟨rfl, rfl⟩
    | some t => exact Or.inr ⟨t, t, rfl, rfl, rfl⟩

theorem size_extend (hes : es.Perm es') : (b.extend es').scope.size = (b.extend es).scope.size := by
  have hlength : (b.extend es').scope.bindings.length = (b.extend es).scope.bindings.length :=
    (bindings_extend_perm hes).length_eq.symm
  rw [Scope.size_eq, Scope.size_eq, hlength]
  rfl

/-- Validation does not see the order of bindings. -/
theorem validateIn_extend (hes : es.Perm es') (hnodup : (keys es).Nodup) (n : String) (v : Value) :
    validateIn (b.extend es').scope (.ref n) v = validateIn (b.extend es).scope (.ref n) v := by
  refine (Validate.validateIn_rebinds (Q := (· = ·)) (rebinds_extend hes hnodup) (size_extend hes)
    (fun _ => rfl) (fun fuel ih u u' hu w => ?_) n v).symm
  obtain rfl : u = u' := hu
  rw [funext₂ ih]

end Perm

/-- One half of the main statement: what is built in one order is built in the other, and has the same
validators. -/
theorem buildFrom_perm [PatternEngine] {b : Builder} {d d' : Definitions} (hd : d.types.Perm d'.types) {s : Scope}
    (hs : b.buildFrom d = .ok s) : ∃ es es', es.Perm es' ∧ (keys es).Nodup ∧
      s = (b.extend es).scope ∧ b.buildFrom d' = .ok (b.extend es').scope := by
  obtain ⟨es, hes, hnodup, hnew, hwf, rfl⟩ := buildFrom_eq_ok.1 hs
  obtain ⟨es', hes', hperm⟩ := List.perm_comp_forall₂ hd.symm hes
  have hkeys : (keys es').Perm (keys es) := hperm.map _
  refine ⟨es, es', hperm.symm, hnodup, rfl, buildFrom_eq_ok.2 ⟨es', hes', hkeys.nodup_iff.2 hnodup,
    fun k hk => hnew k (hkeys.mem_iff.1 hk), hwf.perm hperm.symm hnodup, rfl⟩⟩

/-- **The order of definitions does not matter.** Definitions in two orders are both built or both
refused, by any builder and with any engine for patterns; and if they are built, every name has a validator in both scopes or in none,
and the two validators give the same outcomes: the same output, or the same failure with its path and
its causes. -/
theorem definition_order_ignored [PatternEngine] (b : Builder) {d d' : Definitions}
    (hd : d.types.Perm d'.types) :
    ((∃ s, b.buildFrom d = .ok s) ↔ ∃ s, b.buildFrom d' = .ok s) ∧
    ∀ s s', b.buildFrom d = .ok s → b.buildFrom d' = .ok s' → ∀ n,
      (∃ x, s.compile n = .error x ∧ s'.compile n = .error x) ∨
      ∃ w w', s.compile n = .ok w ∧ s'.compile n = .ok w' ∧ ∀ v, w'.validate v = w.validate v := by
  refine ⟨⟨?_, ?_⟩, fun s s' hs hs' n => ?_⟩
  · rintro ⟨s, hs⟩
    obtain ⟨es, es', -, -, -, hs'⟩ := buildFrom_perm hd hs
    exact ⟨_, hs'⟩
  · rintro ⟨s, hs⟩
    obtain ⟨es, es', -, -, -, hs'⟩ := buildFrom_perm hd.symm hs
    exact ⟨_, hs'⟩
  · obtain ⟨es, es', hperm, hnodup, rfl, hes'⟩ := buildFrom_perm hd hs
    obtain rfl := Except.ok.inj (hs'.symm.trans hes')
    rw [Scope.compile_eq, Scope.compile_eq, (rebinds_extend hperm hnodup).isSome n]
    cases ((b.extend es).scope.resolve n).isSome with
    | false => exact Or.inl ⟨_, rfl, rfl⟩
    | true => exact Or.inr ⟨_, _, rfl, rfl, fun v => validateIn_extend hperm hnodup n v⟩

/-- A path of stones, each defined by names that may come later. -/
def stones : List TypeDefinition :=
  [⟨"Path", .arrayType (.typeRef "Stone")⟩,
    ⟨"Stone", .unionType [.typeRef "Int", .nullable (.typeRef "Slab")]⟩,
    ⟨"Slab", .typeSchema [⟨"next", .typeRef "Stone", true⟩] .closed⟩]

/-- The builder of a unit in a scope. -/
def quarry : Builder := empty "quarry" (some grove.scope)

/-- Names that come later or names that came before; and a name that is defined twice, which is refused
in the one order because it is in the other. -/
theorem definition_order_ignored_stones :
    stones.Perm stones.reverse ∧
    (∃ s s', quarry.buildFrom ⟨stones⟩ = .ok s ∧ quarry.buildFrom ⟨stones.reverse⟩ = .ok s' ∧
      ∃ w w', s.compile "Path" = .ok w ∧ s'.compile "Path" = .ok w' ∧
        ∀ v, w'.validate v = w.validate v) ∧
    ¬ ∃ s, quarry.buildFrom ⟨(⟨"Slab", .typeRef "Int"⟩ :: stones).reverse⟩ = .ok s := by
  have hperm : stones.Perm stones.reverse := (List.reverse_perm stones).symm
  obtain ⟨s, hs⟩ : ∃ s, quarry.buildFrom ⟨stones⟩ = .ok s := ⟨_, rfl⟩
  obtain ⟨s', hs'⟩ : ∃ s, quarry.buildFrom ⟨stones.reverse⟩ = .ok s := ⟨_, rfl⟩
  refine ⟨hperm, ⟨s, s', hs, hs', ?_⟩, ?_⟩
  · rcases (definition_order_ignored quarry hperm).2 s s' hs hs' "Path" with ⟨x, hx, -⟩ | h
    · cases (show quarry.buildFrom ⟨stones⟩ = .ok _ from rfl).symm.trans hs
      cases hx
    · exact h
  · intro h
    have htwice : (Definitions.mk (⟨"Slab", .typeRef "Int"⟩ :: stones).reverse).types.Perm
        (Definitions.mk (⟨"Slab", .typeRef "Int"⟩ :: stones)).types := List.reverse_perm _
    obtain ⟨s, hs⟩ := (definition_order_ignored quarry htwice).1.1 h
    cases hs

end Builder

end Conform
