import Conform.Proofs.Registry
import Conform.Proofs.Validate.Enough

/-!
# Scopes and units stand apart

A type means what its names mean in the scope that binds it. So a scope does not change the types of
the scopes around it, whatever it binds; and a unit of a registry does not depend on the other units.

* `validateIn_around`: a name that a scope does not bind is validated as in the scope around;
* `scopes_isolated`: the main statement, for scopes and for units.
-/

namespace Conform

namespace Validate

/-- A name that a built scope does not bind is validated as in the scope around. -/
theorem validateIn_around {s p : Scope} (hs : s.Built) (hp : s.parent = some p) {n : String}
    (hn : n ∉ s.names) (hr : (p.resolve n).isSome) (v : Value) :
    validateIn s (.ref n) v = validateIn p (.ref n) v := by
  obtain ⟨⟨t, h⟩, hr⟩ := Option.isSome_iff_exists.1 hr
  have hr' : s.resolve n = some (t, h) := (Scope.resolve_of_notMem hp hn).trans hr
  rw [validateIn_ref hs hr', validateIn_ref (hs.parent hp) hr]

/-- **Scopes and units stand apart.** A scope that is built inside another one validates a name that it
does not bind as the outer scope does, failures included, even where it binds again the names that
the outer type refers to. And after any two histories of registries with one prelude, a unit that
both loaded from the same definitions has the same validators in both, or none in both, whatever other
units were loaded. -/
theorem scopes_isolated [PatternEngine] :
    (∀ (outer : Scope) (b : Builder) (inner : Scope), outer.Built → b.parent = some outer →
      b.build = .ok inner → ∀ n w, n ∉ inner.names → outer.compile n = .ok w →
      ∃ w', inner.compile n = .ok w' ∧ ∀ v, w'.validate v = w.validate v) ∧
    (∀ (prelude : Option Scope) (qs₁ qs₂ : List Registry.Request) (u : String) (d : Definitions),
      (Registry.empty prelude).Loads qs₁ u d → (Registry.empty prelude).Loads qs₂ u d →
      ∀ n, ((Registry.empty prelude).run qs₁).validator u n =
        ((Registry.empty prelude).run qs₂).validator u n) := by
  refine ⟨fun outer b inner houter hp hb n w hn hw => ?_, fun prelude qs₁ qs₂ u d h₁ h₂ n => ?_⟩
  · obtain ⟨rfl, hr⟩ := compile_ok hw
    have hinner : inner.Built := .nested hp houter hb
    have hparent : inner.parent = some outer := by
      obtain ⟨rfl, -, -⟩ := Scope.build_ok hb
      exact hp
    have hr' : (inner.resolve n).isSome := by rwa [Scope.resolve_of_notMem hparent hn]
    refine ⟨⟨inner, n⟩, ?_, validateIn_around hinner hparent hn hr⟩
    rw [Scope.compile_eq, if_pos hr']
  · obtain ⟨s₁, hb₁, hu₁⟩ := Registry.unit?_of_loads h₁
    obtain ⟨s₂, hb₂, hu₂⟩ := Registry.unit?_of_loads h₂
    obtain rfl := Except.ok.inj (hb₁.symm.trans hb₂)
    rw [Registry.validator, Registry.validator, hu₁, hu₂]

end Validate

/-! ## An example: parks with and without neighbours -/

namespace Registry

/-- A park is a list of trees. -/
def parks : Definitions := ⟨[⟨"Park", .arrayType (.typeRef "Tree")⟩]⟩

/-- Trees that are texts. -/
def words : Definitions := ⟨[⟨"Tree", .typeRef "String"⟩, ⟨"Leaf", .typeRef "Tree"⟩]⟩

/-- The parks come first; a second request for them fails. -/
def early : List Request := [.definitions "u" parks, .definitions "u" words, .definitions "v" words]

/-- The parks come last. -/
def late : List Request := [.definitions "v" words, .definitions "w" parks, .definitions "u" parks]

end Registry

namespace Validate

/-- A tree has whole numbers as leaves, also where a leaf is a text; and two histories in which a unit
of parks is loaded. -/
theorem scopes_isolated_park :
    ("Tree" ∉ Builder.park.scope.names ∧
      ∀ v, validateIn Builder.park.scope (.ref "Tree") v =
        validateIn Builder.grove.scope (.ref "Tree") v) ∧
    (Registry.empty (some Builder.grove.scope)).Loads Registry.early "u" Registry.parks ∧
    (Registry.empty (some Builder.grove.scope)).Loads Registry.late "u" Registry.parks ∧
    ((Registry.empty (some Builder.grove.scope)).run Registry.early).validator "u" "Park" =
      ((Registry.empty (some Builder.grove.scope)).run Registry.late).validator "u" "Park" := by
  have hnot : "Tree" ∉ Builder.park.scope.names := by decide
  obtain ⟨w, hw, hsame⟩ := scopes_isolated.1 Builder.grove.scope Builder.park Builder.park.scope
    Builder.grove_built rfl rfl "Tree" ⟨Builder.grove.scope, "Tree"⟩ hnot rfl
  have hpark : Builder.park.scope.compile "Tree" = .ok ⟨Builder.park.scope, "Tree"⟩ := rfl
  obtain rfl := Except.ok.inj (hw.symm.trans hpark)
  have hearly : (Registry.empty (some Builder.grove.scope)).Loads Registry.early "u"
      Registry.parks := ⟨[], _, _, _, rfl, rfl, rfl, rfl⟩
  have hlate : (Registry.empty (some Builder.grove.scope)).Loads Registry.late "u"
      Registry.parks := ⟨[_, _], _, [], _, rfl, rfl, rfl, rfl⟩
  exact ⟨⟨hnot, hsame⟩, hearly, hlate, scopes_isolated.2 _ _ _ _ _ hearly hlate "Park"⟩

end Validate

end Conform
