import Conform.Proofs.Definition.Build
import Conform.Proofs.Value.Json

/-!
# Definitions whose outputs can be read again

A duration is printed in another form than it was read in, and a union may tell the text of a value
from the value. Definitions without durations, in which unions have primitive branches only, are
canonical; so are the types they stand for, and the scopes built from them.

* `TypeSyntax.Canonical`, `Schema.Canonical`, `Scope.Canonical`: types as written, types, scopes;
* `TypeSyntax.canonical_of_lower`: a canonical type as written stands for a canonical type;
* `Scope.canonical_of_buildFrom`: canonical definitions in a canonical scope build a canonical
  scope.
-/

namespace Conform

/-! ## Canonical types -/

namespace Schema

/-- The type at the top is no duration; if it is a union, it has primitive branches only; and if it
is a literal type, its members can be read from documents. The order of alternatives does not
matter. -/
def Canonical : Schema → Prop
  | .primitive k => k ≠ .duration
  | .union ts => ∃ ks : List Kind, ts = ks.map .primitive ∧ .duration ∉ ks
  | .literal ms => ∀ m ∈ ms, m.Plain
  | _ => True

/-- A property holds of a type and of all types inside it. -/
inductive Everywhere (P : Schema → Prop) : Schema → Prop
  | intro {t} (here : P t) (parts : ∀ u ∈ t.parts, Everywhere P u) : Everywhere P t

variable {P : Schema → Prop} {t u : Schema}

theorem Everywhere.here (h : t.Everywhere P) : P t := by
  cases h with
  | intro here _ => exact here

theorem Everywhere.part (h : t.Everywhere P) (hu : u ∈ t.parts) : u.Everywhere P := by
  cases h with
  | intro _ parts => exact parts u hu

end Schema

/-! ## Types as written -/

/-- A name of a primitive kind other than a duration. -/
def TypeSyntax.Primitive : TypeSyntax → Prop
  | .typeRef n => ∃ k, Kind.ofName? n = some k ∧ k ≠ .duration
  | _ => False

namespace TypeSyntax

mutual

/-- The type, as written, uses no duration, and its unions have primitive branches only. -/
def Canonical : TypeSyntax → Prop
  | .typeRef n => Kind.ofName? n ≠ some .duration
  | .typeSchema ps es => CanonicalProperties ps ∧ CanonicalExtras es
  | .subtypeConstraint b _ => Canonical b
  | .arrayType t => Canonical t
  | .unionType ts => ∀ t ∈ ts, t.Primitive
  | .nullable t => Canonical t
  | .literal _ => True

/-- The types of fields do. -/
def CanonicalProperties : List (Property TypeSyntax) → Prop
  | [] => True
  | ⟨_, t, _⟩ :: r => Canonical t ∧ CanonicalProperties r

/-- The type of other keys does. -/
def CanonicalExtras : Extras TypeSyntax → Prop
  | .closed => True
  | .ignored => True
  | .typed t => Canonical t

end

/-- A name stands for a primitive type, or for a reference. -/
theorem canonical_of_lowerName {n : String} (hn : Kind.ofName? n ≠ some .duration) {u : Schema}
    (h : lowerName n = .ok u) : u.Everywhere Schema.Canonical := by
  unfold lowerName at h
  split at h
  · rename_i k hk
    obtain rfl := Except.ok.inj h
    exact .intro (fun hne => hn (hne ▸ hk)) (by simp [Schema.parts])
  · split at h
    · split at h
      · obtain rfl := Except.ok.inj h
        exact .intro trivial (by simp [Schema.parts])
      · simp at h
    · simp at h

variable [PatternEngine]

/-- Primitive branches stand for primitive types. -/
theorem lowerList_of_primitive {ts : List TypeSyntax} (hts : ∀ t ∈ ts, t.Primitive)
    {us : List Schema} (h : lowerList ts = .ok us) :
    ∃ ks : List Kind, us = ks.map .primitive ∧ .duration ∉ ks := by
  induction ts generalizing us with
  | nil =>
    obtain rfl : [] = us := by simpa [lowerList] using h
    exact ⟨[], rfl, by simp⟩
  | cons t ts ih =>
    obtain ⟨ht, hts⟩ := List.forall_mem_cons.1 hts
    obtain ⟨u, hu, h⟩ := Outcome.bind_eq_ok.1 h
    obtain ⟨us', hus, h⟩ := Outcome.bind_eq_ok.1 h
    obtain rfl : u :: us' = us := by simpa [pure, Except.pure] using h
    obtain ⟨ks, rfl, hks⟩ := ih hts hus
    cases t with
    | typeRef n =>
      obtain ⟨k, hk, hne⟩ := ht
      obtain rfl : .primitive k = u := by simpa [lower, lowerName, hk] using hu
      exact ⟨k :: ks, rfl, by simp [hks, Ne.symm hne]⟩
    | _ => exact ht.elim

mutual

/-- **Canonical types as written stand for canonical types.** -/
theorem canonical_of_lower : ∀ (t : TypeSyntax) {u : Schema}, t.Canonical → lower t = .ok u →
    u.Everywhere Schema.Canonical
  | .typeRef n, u, ht, h => canonical_of_lowerName ht h
  | .typeSchema ps es, u, ht, h => by
    obtain ⟨fs, hfs, h⟩ := Outcome.bind_eq_ok.1 h
    obtain ⟨ex, hex, h⟩ := Outcome.bind_eq_ok.1 h
    obtain rfl : .record fs ex = u := by simpa [pure, Except.pure] using h
    refine .intro trivial fun v hv => ?_
    rcases Schema.mem_parts_record.1 hv with ⟨f, hf, rfl⟩ | rfl
    · exact canonical_of_lowerProperties ps ht.1 hfs f hf
    · exact canonical_of_lowerExtras es ht.2 hex v rfl
  | .subtypeConstraint b cs, u, ht, h => by
    obtain ⟨t, hb, h⟩ := Outcome.bind_eq_ok.1 h
    obtain ⟨ks, -, h⟩ := Outcome.bind_eq_ok.1 h
    obtain rfl : .refined t ks = u := by simpa [pure, Except.pure] using h
    exact .intro trivial (by simpa [Schema.parts] using canonical_of_lower b ht hb)
  | .arrayType t, u, ht, h => by
    obtain ⟨t', hlower, rfl⟩ := Outcome.map_eq_ok.1 h
    exact .intro trivial (by simpa [Schema.parts] using canonical_of_lower t ht hlower)
  | .unionType ts, u, ht, h => by
    obtain ⟨us, hus, rfl⟩ := Outcome.map_eq_ok.1 h
    obtain ⟨ks, rfl, hks⟩ := lowerList_of_primitive ht hus
    refine .intro ⟨ks, rfl, hks⟩ fun v hv => ?_
    obtain ⟨k, hk, rfl⟩ := List.mem_map.1 hv
    exact .intro (fun hne => hks (hne ▸ hk)) (by simp [Schema.parts])
  | .nullable t, u, ht, h => by
    obtain ⟨t', hlower, rfl⟩ := Outcome.map_eq_ok.1 h
    exact .intro trivial (by simpa [Schema.parts] using canonical_of_lower t ht hlower)
  | .literal vs, u, _, h => by
    obtain rfl : .literal (vs.map Value.ofJson) = u := Except.ok.inj h
    refine .intro (fun m hm => ?_) (by simp [Schema.parts])
    obtain ⟨j, -, rfl⟩ := List.mem_map.1 hm
    exact Value.plain_ofJson j

theorem canonical_of_lowerProperties :
    ∀ (ps : List (Property TypeSyntax)) {fs : List (Field Schema)}, CanonicalProperties ps →
    lowerProperties ps = .ok fs → ∀ f ∈ fs, f.type.Everywhere Schema.Canonical
  | [], fs, _, h => by
    obtain rfl : [] = fs := by simpa [lowerProperties] using h
    simp
  | ⟨k, t, o⟩ :: ps, fs, ht, h => by
    obtain ⟨u, hu, h⟩ := Outcome.bind_eq_ok.1 h
    obtain ⟨fs', hfs, h⟩ := Outcome.bind_eq_ok.1 h
    obtain rfl : ⟨k, u, !o⟩ :: fs' = fs := by simpa [pure, Except.pure] using h
    exact List.forall_mem_cons.2
      ⟨canonical_of_lower t ht.1 hu, canonical_of_lowerProperties ps ht.2 hfs⟩

theorem canonical_of_lowerExtras : ∀ (es : Extras TypeSyntax) {ex : Extras Schema},
    CanonicalExtras es → lowerExtras es = .ok ex →
    ∀ u, ex = .typed u → u.Everywhere Schema.Canonical
  | .closed, ex, _, h => by
    obtain rfl : .closed = ex := by simpa [lowerExtras] using h
    simp
  | .ignored, ex, _, h => by
    obtain rfl : .ignored = ex := by simpa [lowerExtras] using h
    simp
  | .typed t, ex, ht, h => by
    obtain ⟨u, hu, rfl⟩ := Outcome.map_eq_ok.1 h
    rintro u' hu'
    cases hu'
    exact canonical_of_lower t ht hu

end

end TypeSyntax

/-- The definitions use no duration, and their unions have primitive branches only. -/
def Definitions.Canonical (d : Definitions) : Prop := ∀ t ∈ d.types, t.type.Canonical

/-! ## Scopes -/

/-- A built scope with canonical types in reach. -/
structure Scope.Canonical (s : Scope) : Prop where
  built : s.Built
  types : ∀ h t, s.Reaches h t → t.Canonical

/-- A builder that has taken definitions binds what they stand for, beside what it bound before. -/
theorem Builder.define_ok [PatternEngine] {b b' : Builder} {ds : List TypeDefinition} (h : b.define ds = .ok b') :
    b'.parent = b.parent ∧
      ∀ n t, (n, t) ∈ b'.bindings → (n, t) ∈ b.bindings ∨ ∃ d ∈ ds, d.type.lower = .ok t := by
  obtain ⟨es, hes, hall⟩ := define_eq_ok.1 h
  obtain ⟨-, -, rfl⟩ := registerAll_eq_ok.1 hall
  refine ⟨rfl, fun n t hmem => ?_⟩
  rcases List.mem_append.1 hmem with hmem | hmem
  · exact Or.inl hmem
  · obtain ⟨d, hd, -, ht⟩ := Validate.exists_of_mem_right hes hmem
    exact Or.inr ⟨d, hd, ht⟩

namespace Scope

variable {s h : Scope} {t : Schema} {C : Schema → Prop}

/-- **What is in reach of a scope** stands inside one of its own bindings, or is a reference, or is
in reach of the scope around. -/
theorem Reaches.everywhere_or_parent (hbind : ∀ n t, (n, t) ∈ s.bindings → t.Everywhere C)
    (href : ∀ n, C (.ref n)) (ht : s.Reaches h t) :
    (h = s ∧ t.Everywhere C) ∨ ∃ p, s.parent = some p ∧ p.Reaches h t := by
  induction ht with
  | name hn => exact Or.inl ⟨rfl, .intro (href _) (by simp [Schema.parts])⟩
  | part _ hu ih =>
    rcases ih with ⟨rfl, ht⟩ | ⟨p, hp, ht⟩
    · exact Or.inl ⟨rfl, ht.part hu⟩
    · exact Or.inr ⟨p, hp, ht.part hu⟩
  | target _ hr ih =>
    rcases ih with ⟨rfl, -⟩ | ⟨p, hp, ht⟩
    · rcases resolve_cases hr with ⟨hn, rfl⟩ | ⟨-, p, hp, hr⟩
      · exact Or.inl ⟨rfl, hbind _ _ (Entries.mem_of_find? hn)⟩
      · exact Or.inr ⟨p, hp, .target (.name (by simp [hr])) hr⟩
    · exact Or.inr ⟨p, hp, ht.target hr⟩

/-- **Canonical definitions build canonical scopes**, alone or inside a canonical scope. -/
theorem canonical_of_buildFrom [PatternEngine] {name : String} {parent : Option Scope}
    (hp : ∀ p, parent = some p → p.Canonical) {d : Definitions} (hd : d.Canonical)
    (hs : (Builder.empty name parent).buildFrom d = .ok s) : s.Canonical := by
  obtain ⟨b, hdefine, hbuild⟩ := Outcome.bind_eq_ok.1 hs
  obtain ⟨hparent, hbind⟩ := Builder.define_ok hdefine
  have hparent : b.parent = parent := hparent
  have hbuilt : s.Built := by
    cases parent with
    | none => exact .root hparent hbuild
    | some p => exact .nested hparent (hp p rfl).built hbuild
  refine ⟨hbuilt, fun h t ht => ?_⟩
  obtain ⟨rfl, -, -⟩ := build_ok hbuild
  have hcanonical : ∀ n t, (n, t) ∈ b.bindings → t.Everywhere Schema.Canonical := by
    intro n t hmem
    rcases hbind n t hmem with hmem | ⟨a, ha, ht⟩
    · simp [Builder.empty] at hmem
    · exact TypeSyntax.canonical_of_lower _ (hd a ha) ht
  rcases ht.everywhere_or_parent hcanonical fun n => trivial with ⟨-, ht⟩ | ⟨p, hsome, ht⟩
  · exact ht.here
  · exact (hp p (hparent ▸ hsome)).types h t ht

end Scope

end Conform
