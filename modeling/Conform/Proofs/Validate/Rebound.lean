import Conform.Proofs.Validate.Inline

/-!
# Names bound to other types

Two builders bind the same names in the same place, to types that are related. What can be said of
their validators is said type by type first, and then carried through the expansion of names.

* `Schema.Somewhere R t t'`: the type `t'` is `t` with one type in it replaced by a related one;
* `Somewhere.lift`: what holds of related types and passes from parts to types holds then, too;
* `Builder.Retypes R b b'`: the builders differ only in the types, which are related;
* `Field.Extends R fs fs' names`: fields that are taken over with related types, and new ones;
* `follow_rebinds`, `validateIn_rebinds`: what a walk says of related types validation says of names.
-/

namespace Conform

/-! ## One place in a type -/

namespace Schema

/-- The second type is the first with one type in it, at any depth, replaced by a related one. -/
inductive Somewhere (R : Schema → Schema → Prop) : Schema → Schema → Prop
  | here {t t'} (h : R t t') : Somewhere R t t'
  | nullable {t t'} (h : Somewhere R t t') : Somewhere R (.nullable t) (.nullable t')
  | branch (before after) {t t'} (h : Somewhere R t t') :
    Somewhere R (.union (before ++ t :: after)) (.union (before ++ t' :: after))
  | element {t t'} (h : Somewhere R t t') : Somewhere R (.array t) (.array t')
  | field (before after) (k required ex) {t t'} (h : Somewhere R t t') :
    Somewhere R (.record (before ++ ⟨k, t, required⟩ :: after) ex)
      (.record (before ++ ⟨k, t', required⟩ :: after) ex)
  | extras (fs) {t t'} (h : Somewhere R t t') :
    Somewhere R (.record fs (.typed t)) (.record fs (.typed t'))
  | base (cs) {t t'} (h : Somewhere R t t') : Somewhere R (.refined t cs) (.refined t' cs)

/-- **From one place to the whole type.** A relation that holds of replaced types, and of types of one
shape when it holds of their parts, holds of the types around the place. -/
theorem Somewhere.lift {R E : Schema → Schema → Prop} (hrefl : ∀ t, E t t)
    (hroot : ∀ {t t'}, R t t' → E t t') (hcongr : ∀ {t t'}, t.Alike E t' → E t t') {t t' : Schema}
    (h : Somewhere R t t') : E t t' := by
  have hfield : ∀ f, Field.Alike E f f := fun f => ⟨rfl, rfl, hrefl f.type⟩
  induction h with
  | here h => exact hroot h
  | nullable _ ih => exact hcongr (.nullable ih)
  | branch before after _ ih => exact hcongr (.union (forall₂_middle hrefl before after ih))
  | element _ ih => exact hcongr (.array ih)
  | field before after k required ex _ ih =>
    exact hcongr (.record (forall₂_middle hfield before after ⟨rfl, rfl, ih⟩)
      (Extras.alike_refl fun u _ => hrefl u))
  | extras fs _ ih => exact hcongr (.record (List.forall₂_same.2 fun f _ => hfield f) (.typed ih))
  | base cs _ ih => exact hcongr (.refined cs ih)

end Schema

/-! ## Fields that are taken over -/

/-- The second list has the fields of the first in their order, with related types and none of them
required anew; other fields in it are optional and not among the `names`. -/
inductive Field.Extends (R : Schema → Schema → Prop) :
    List (Field Schema) → List (Field Schema) → List String → Prop
  | nil {names} : Extends R [] [] names
  | kept {f f' fs fs' names} (name : f'.name = f.name)
      (required : f'.required = true → f.required = true) (type : R f.type f'.type)
      (h : Extends R fs fs' names) : Extends R (f :: fs) (f' :: fs') names
  | added {f' fs fs' names} (name : f'.name ∉ names) (optional : f'.required = false)
      (h : Extends R fs fs' names) : Extends R fs (f' :: fs') names

namespace Field

variable {R : Schema → Schema → Prop} {fs fs' : List (Field Schema)} {names : List String}

theorem extends_of_alike (h : List.Forall₂ (Field.Alike R) fs fs') (names : List String) :
    Extends R fs fs' names := by
  induction h with
  | nil => exact .nil
  | cons hf _ ih => exact .kept hf.name (fun hr => hf.required ▸ hr) hf.type ih

theorem Extends.names_subset (h : Extends R fs fs' names) :
    fs.map (·.name) ⊆ fs'.map (·.name) := by
  induction h with
  | nil => exact List.Subset.refl _
  | kept hname _ _ _ ih =>
    rw [List.map_cons, List.map_cons, hname]
    exact List.cons_subset_cons _ ih
  | added _ _ _ ih => exact List.subset_cons_of_subset _ ih

end Field

namespace Validate

/-- **Fields that are taken over** give the same output, when their types do and no field of the value
has a new name. -/
theorem walkFields_extends {R : Schema → Schema → Prop} {fs fs' : List (Field Schema)}
    {names : List String} (h : Field.Extends R fs fs' names)
    {e₁ e₂ : String → Value → Except Failure Value} {m os : List (String × Value)}
    (type : ∀ f ∈ fs', ∀ u w o, R u f.type → walk e₁ u w = .ok o → walk e₂ f.type w = .ok o)
    (absent : ∀ f ∈ fs', f.name ∉ names → f.name ∉ Entries.keys m)
    (hos : walkFields e₁ m fs = .ok os) : walkFields e₂ m fs' = .ok os := by
  induction h generalizing os with
  | nil => exact hos
  | @kept f f' fs fs' names hname hrequired htype _ ih =>
    have later : ∀ {os}, walkFields e₁ m fs = .ok os → walkFields e₂ m fs' = .ok os :=
      ih (fun g hg => type g (List.mem_cons_of_mem _ hg))
        fun g hg => absent g (List.mem_cons_of_mem _ hg)
    rw [walkFields_cons] at hos ⊢
    rw [hname]
    cases hfind : Entries.find? f.name m with
    | none =>
      rw [hfind] at hos
      cases hr : f.required with
      | true => simp [hr] at hos
      | false =>
        have hr' : f'.required = false := by
          by_contra hne
          have := hrequired (by simpa using hne)
          simp [hr] at this
        simp only [hr, hr', Bool.false_eq_true, if_false] at hos ⊢
        exact later hos
    | some v =>
      rw [hfind] at hos
      obtain ⟨o, ho, hos⟩ := Outcome.bind_eq_ok.1 hos
      obtain ⟨rest, hrest, hos⟩ := Outcome.bind_eq_ok.1 hos
      have ho' := type f' List.mem_cons_self _ _ _ htype (inside_eq_ok.1 ho)
      exact Outcome.bind_eq_ok.2 ⟨o, inside_eq_ok.2 ho',
        Outcome.bind_eq_ok.2 ⟨rest, later hrest, hos⟩⟩
  | @added f' fs fs' names hname hoptional _ ih =>
    have hnot : f'.name ∉ Entries.keys m := absent f' List.mem_cons_self hname
    rw [walkFields_cons, (Entries.find?_eq_none_iff f'.name m).2 hnot]
    simp only [hoptional, Bool.false_eq_true, if_false]
    exact ih (fun g hg => type g (List.mem_cons_of_mem _ hg))
      (fun g hg => absent g (List.mem_cons_of_mem _ hg)) hos

end Validate

/-! ## Builders with the same names -/

namespace Builder

/-- The builders stand in the same place and bind the same names, in the same order, to related
types. -/
structure Retypes (R : Schema → Schema → Prop) (b b' : Builder) : Prop where
  parent : b'.parent = b.parent
  bindings : List.Forall₂ (Entries.Paired R) b.bindings b'.bindings

variable {R : Schema → Schema → Prop} {b b' : Builder}

theorem Retypes.mono {R' : Schema → Schema → Prop} (h : b.Retypes R b')
    (himp : ∀ {t t'}, R t t' → R' t t') : b.Retypes R' b' :=
  ⟨h.parent, h.bindings.imp fun _ _ he => ⟨he.1, himp he.2⟩⟩

theorem Retypes.keys (h : b.Retypes R b') :
    Entries.keys b'.bindings = Entries.keys b.bindings :=
  Entries.keys_paired h.bindings

/-- The scopes of the builders bind the same names to related types. -/
theorem Retypes.rebinds (h : b.Retypes R b') : b.scope.Rebinds R b'.scope :=
  ⟨h.parent, Entries.find?_paired h.bindings⟩

theorem Retypes.size (h : b.Retypes R b') : b'.scope.size = b.scope.size := by
  have hlength : b'.bindings.length = b.bindings.length := h.bindings.length_eq.symm
  have houter : b'.scope.outer = b.scope.outer := by
    rw [Scope.outer, Scope.outer, show b'.scope.parent = b.scope.parent from h.parent]
  rw [Scope.size_eq, Scope.size_eq, houter]
  exact congrArg (· + _) hlength

end Builder

namespace Scope

variable {R : Schema → Schema → Prop} {s s' : Scope}

theorem Rebinds.mono {R' : Schema → Schema → Prop} (h : s.Rebinds R s')
    (himp : ∀ {k u u'}, Entries.find? k s.bindings = some u → R u u' → R' u u') :
    s.Rebinds R' s' where
  parent := h.parent
  bindings k := by
    rcases h.bindings k with hnone | ⟨u, u', hu, hu', hR⟩
    · exact Or.inl hnone
    · exact Or.inr ⟨u, u', hu, hu', himp hu hR⟩

/-- The scopes have validators for the same names. -/
theorem Rebinds.compile (h : s.Rebinds R s') (k : String) :
    (∃ x x', s.compile k = .error x ∧ s'.compile k = .error x') ∨
      s.compile k = .ok ⟨s, k⟩ ∧ s'.compile k = .ok ⟨s', k⟩ := by
  rw [compile_eq, compile_eq, h.isSome k]
  cases (s.resolve k).isSome with
  | false => exact Or.inl ⟨_, _, rfl, rfl⟩
  | true => exact Or.inr ⟨rfl, rfl⟩

end Scope

/-! ## Names are expanded in both scopes -/

namespace Validate

variable {R : Schema → Schema → Prop} {Q : Except Failure Value → Except Failure Value → Prop}
  {s s' : Scope}

/-- **The run.** What holds of the outcomes for related types, whenever it holds of the outcomes for
names with as many expansions, holds of the outcomes for names. -/
theorem follow_rebinds (hs : s.Rebinds R s') (hrefl : ∀ x, Q x x)
    (step : ∀ fuel, (∀ n v, Q (follow fuel s n v) (follow fuel s' n v)) → ∀ u u', R u u' →
      ∀ v, Q (walk (follow fuel s) u v) (walk (follow fuel s') u' v)) (fuel : Nat) :
    ∀ n v, Q (follow fuel s n v) (follow fuel s' n v) := by
  induction fuel with
  | zero =>
    intro n v
    exact hrefl _
  | succ fuel ih =>
    intro n v
    rw [follow, follow]
    rcases hs.resolve n with ⟨h, h'⟩ | ⟨u, u', h, h', hR⟩ | ⟨u, home, h, h'⟩
    · rw [h, h']
      exact hrefl _
    · rw [h, h']
      exact step fuel ih u u' hR v
    · -- a name of a scope around both is the same in both
      rw [h, h']
      exact hrefl _

/-- What holds of the outcomes for related types holds of the outcomes of validation. -/
theorem validateIn_rebinds (hs : s.Rebinds R s') (hsize : s'.size = s.size) (hrefl : ∀ x, Q x x)
    (step : ∀ fuel, (∀ n v, Q (follow fuel s n v) (follow fuel s' n v)) → ∀ u u', R u u' →
      ∀ v, Q (walk (follow fuel s) u v) (walk (follow fuel s') u' v)) (n : String) (v : Value) :
    Q (validateIn s (.ref n) v) (validateIn s' (.ref n) v) := by
  rw [validateIn, validateIn, walk_expand, walk_expand, hsize]
  exact follow_rebinds hs hrefl step _ n v

end Validate

end Conform
