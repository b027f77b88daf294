import Conform.Proofs.Validate.Calls
import Conform.Proofs.Validate.Parts

/-!
# References are expanded often enough

`validateIn` expands references a bounded number of times. In a built scope the bound is never met:
the outcome does not depend on it, nor on what is answered when it is met. So validation satisfies
the equations of an unbounded walk.

* `walk_congr`: a walk asks for names in reach without a guard with the value at hand, and for other
  names with less deep values only;
* `followOr`: expansion with any answer where the bound is met or a name means nothing;
* `followOr_stable`: with enough fuel neither the fuel nor that answer matters;
* `validateIn_eq_walk`, `validateIn_ref`: the equations; `walk_ask`: the first of them, for all types.
-/

namespace Conform

namespace Validate

/-! ## What a walk asks for -/

section Congr

variable {f g : Value → Except Failure Value} {e₁ e₂ : String → Value → Except Failure Value}

theorem items_congr {xs : List Value} (i : Nat) (h : ∀ v ∈ xs, f v = g v) :
    items f i xs = items g i xs := by
  induction xs generalizing i with
  | nil => rfl
  | cons v r ih =>
    simp only [items, h v List.mem_cons_self, ih (i + 1) fun w hw => h w (List.mem_cons_of_mem _ hw)]

theorem entries_congr {es : List (String × Value)} (h : ∀ e ∈ es, f e.2 = g e.2) :
    entries f es = entries g es := by
  induction es with
  | nil => rfl
  | cons e r ih =>
    simp only [entries, h e List.mem_cons_self, ih fun w hw => h w (List.mem_cons_of_mem _ hw)]

theorem walkBranches_congr {ts ts' : List Schema} {v : Value}
    (h : List.Forall₂ (fun t t' => walk e₁ t v = walk e₂ t' v) ts ts') :
    walkBranches e₁ ts v = walkBranches e₂ ts' v := by
  induction h with
  | nil => rfl
  | cons ht _ ih => simp only [walkBranches_cons, ht, ih]

theorem walkFields_congr {fs fs' : List (Field Schema)} {m : List (String × Value)}
    (h : List.Forall₂ (fun f f' => f'.name = f.name ∧ f'.required = f.required ∧
      ∀ u, Entries.find? f.name m = some u → walk e₁ f.type u = walk e₂ f'.type u) fs fs') :
    walkFields e₁ m fs = walkFields e₂ m fs' := by
  induction h with
  | nil => rfl
  | cons hf _ ih =>
    obtain ⟨hname, hrequired, htype⟩ := hf
    simp only [walkFields_cons, hname, hrequired, ih]
    split
    · rename_i u hu
      rw [htype u hu]
    · rfl

theorem walkExtras_congr {es : List (String × Value)} {ex ex' : Extras Schema}
    (h : ex.Alike (fun t t' => ∀ e ∈ es, walk e₁ t e.2 = walk e₂ t' e.2) ex') :
    walkExtras e₁ es ex = walkExtras e₂ es ex' := by
  cases h with
  | closed => rfl
  | ignored => rfl
  | typed h =>
    rw [walkExtras_typed, walkExtras_typed]
    exact entries_congr h

/-- **What a walk asks for**: names in reach without a guard are asked for with the value at hand,
all other names with less deep values. -/
theorem walk_congr (t : Schema) (v : Value) (hsame : ∀ n ∈ t.unguarded, e₁ n v = e₂ n v)
    (hdeep : ∀ n ∈ t.references, ∀ u, u.depth < v.depth → e₁ n u = e₂ n u) :
    walk e₁ t v = walk e₂ t v := by
  induction t using Schema.ind generalizing v with
  | _ t parts =>
    -- a part that meets a less deep value: all its references are asked for further inside
    have inner : ∀ p ∈ t.parts, ∀ u, u.depth < v.depth → walk e₁ p u = walk e₂ p u := by
      intro p hp u hu
      refine parts p hp u (fun n hn => ?_) (fun n hn w hw => ?_)
      · exact hdeep n (Schema.references_of_part hp (p.unguarded_subset_references hn)) u hu
      · exact hdeep n (Schema.references_of_part hp hn) w (Nat.lt_trans hw hu)
    -- a part that meets the value at hand
    have here : ∀ p ∈ t.parts, p.unguarded ⊆ t.unguarded → walk e₁ p v = walk e₂ p v := by
      intro p hp hsub
      exact parts p hp v (fun n hn => hsame n (hsub hn)) fun n hn u hu =>
        hdeep n (Schema.references_of_part hp hn) u hu
    cases t with
    | primitive k => rfl
    | literal ms => rfl
    | ref n =>
      rw [walk_expand, walk_expand]
      exact hsame n (by simp [Schema.unguarded])
    | nullable t =>
      simp only [walk_nullable, here t (by simp [Schema.parts]) (by simp [Schema.unguarded])]
    | refined t cs =>
      simp only [walk_refined, here t (by simp [Schema.parts]) (by simp [Schema.unguarded])]
    | union ts =>
      have hts : ∀ t ∈ ts, walk e₁ t v = walk e₂ t v := by
        intro t ht
        refine here t ht fun n hn => ?_
        simp only [Schema.unguarded, Schema.unguardedBranches_eq]
        exact List.mem_flatMap.2 ⟨t, ht, hn⟩
      simp only [walk_union, walkBranches_congr (List.forall₂_same.2 hts)]
    | array t =>
      cases v with
      | list xs =>
        have hxs : ∀ u ∈ xs, walk e₁ t u = walk e₂ t u := fun u hu =>
          inner t (by simp [Schema.parts]) u (Value.depth_item hu)
        simp only [walk_array, items_congr 0 hxs]
      | _ => rfl
    | record fs ex =>
      cases v with
      | record m =>
        have hfs : walkFields e₁ m fs = walkFields e₂ m fs :=
          walkFields_congr <| List.forall₂_same.2 fun f hf => ⟨rfl, rfl, fun u hu =>
            inner f.type (Schema.field_mem_parts hf) u (Value.depth_find? hu)⟩
        have hex : walkExtras e₁ (undeclared fs m) ex = walkExtras e₂ (undeclared fs m) ex := by
          refine walkExtras_congr (Extras.alike_refl fun t ht e he => ?_)
          subst ht
          exact inner t Schema.extras_mem_parts e.2 (Value.depth_entry (mem_of_undeclared he))
        simp only [walk_record, hfs, hex]
      | _ => rfl

end Congr

/-! ## The fuel does not matter -/

/-- Expansion of references with the answer `gap` where the fuel is spent or a name means nothing. -/
def followOr (gap : String → Value → Except Failure Value) :
    Nat → Scope → String → Value → Except Failure Value
  | 0, _, n, v => gap n v
  | fuel + 1, s, n, v =>
    match s.resolve n with
    | some (t, home) => walk (followOr gap fuel home) t v
    | none => gap n v

theorem follow_eq_followOr (fuel : Nat) (s : Scope) :
    follow fuel s = followOr (fun n _ => .error (.unresolved n)) fuel s := by
  induction fuel generalizing s with
  | zero => rfl
  | succ fuel ih =>
    funext n v
    simp only [follow, followOr]
    cases s.resolve n with
    | none => rfl
    | some p => simp only [ih]

section Stable

variable {s h : Scope} {n : String} {t : Schema} {v : Value}

/-- **Enough fuel.** A name of a built scope needs as many expansions as its level says for the value
at hand, and as many as there are bindings for every level of the value. -/
theorem followOr_stable (hs : s.Built) (hn : (s.resolve n).isSome) {fuel₁ fuel₂ : Nat}
    (h₁ : s.size * v.depth + s.level n ≤ fuel₁) (h₂ : s.size * v.depth + s.level n ≤ fuel₂)
    (gap₁ gap₂ : String → Value → Except Failure Value) :
    followOr gap₁ fuel₁ s n v = followOr gap₂ fuel₂ s n v := by
  induction fuel₁ generalizing s n v fuel₂ with
  | zero =>
    obtain ⟨⟨t, h⟩, hr⟩ := Option.isSome_iff_exists.1 hn
    have := hs.outer_lt_level hr
    omega
  | succ fuel₁ ih =>
    obtain ⟨⟨t, h⟩, hr⟩ := Option.isSome_iff_exists.1 hn
    obtain ⟨hh, -, hadmits, hsize⟩ := hs.home hr
    have hpos := hs.outer_lt_level hr
    obtain ⟨fuel₂, rfl⟩ : ∃ k, fuel₂ = k + 1 := ⟨fuel₂ - 1, by omega⟩
    simp only [followOr, hr]
    refine walk_congr t v (fun m hm => ?_) (fun m hm u hu => ?_)
    · have hmul : h.size * v.depth ≤ s.size * v.depth := Nat.mul_le_mul_right _ hsize
      have hlt := hs.level_lt hr hm
      exact ih hh (hadmits.unguarded hm) (by omega) (by omega)
    · have hmul : h.size * (u.depth + 1) ≤ s.size * v.depth := Nat.mul_le_mul hsize hu
      have hle := hh.level_le_size m
      rw [Nat.mul_succ] at hmul
      exact ih hh (hadmits.bound m hm) (by omega) (by omega)

/-- The fuel that `validateIn` takes is enough for the value and for all that is inside it. -/
theorem fuel_le (hs : s.Built) (n : String) {u : Value} {fuel : Nat} (hu : u.depth ≤ v.depth)
    (hfuel : s.size * (v.depth + 1) ≤ fuel) : s.size * u.depth + s.level n ≤ fuel := by
  have hmul : s.size * u.depth ≤ s.size * v.depth := Nat.mul_le_mul_left _ hu
  have hle := hs.level_le_size n
  rw [Nat.mul_succ] at hfuel
  omega

/-- Validation is the walk with any sufficient fuel, whatever is answered when the fuel is spent. -/
theorem walk_followOr (hs : s.Built) (ht : s.Admits t) {fuel : Nat}
    (hfuel : s.size * (v.depth + 1) ≤ fuel) (gap : String → Value → Except Failure Value) :
    walk (followOr gap fuel s) t v = validateIn s t v := by
  rw [validateIn, follow_eq_followOr]
  refine walk_congr t v (fun m hm => ?_) (fun m hm u hu => ?_)
  · exact followOr_stable hs (ht.unguarded hm) (fuel_le hs m (Nat.le_refl _) hfuel)
      (fuel_le hs m (Nat.le_refl _) (Nat.le_refl _)) _ _
  · exact followOr_stable hs (ht.bound m hm) (fuel_le hs m (Nat.le_of_lt hu) hfuel)
      (fuel_le hs m (Nat.le_of_lt hu) (Nat.le_refl _)) _ _

end Stable

/-! ## The equations of an unbounded walk -/

/-- Validation against the type that a name means. -/
def ask (s : Scope) (n : String) (v : Value) : Except Failure Value :=
  match s.resolve n with
  | some (t, home) => validateIn home t v
  | none => .error (.unresolved n)

section Equations

variable {s h : Scope} {n : String} {t : Schema}

/-- **A name is validated as the type it means**, in the scope that binds it. -/
theorem validateIn_ref (hs : s.Built) (hr : s.resolve n = some (t, h)) (v : Value) :
    validateIn s (.ref n) v = validateIn h t v := by
  obtain ⟨hh, -, hadmits, hsize⟩ := hs.home hr
  have hn : s.Admits (.ref n) := Scope.admits_ref (by simp [hr])
  have hmul : h.size * (v.depth + 1) ≤ s.size * (v.depth + 1) := Nat.mul_le_mul_right _ hsize
  -- one unit of fuel more, so that the name can be expanded once
  rw [← walk_followOr hs hn (Nat.le_succ _) fun n _ => .error (.unresolved n)]
  simp only [walk_expand, followOr, hr]
  exact walk_followOr hh hadmits hmul _

theorem follow_eq_ask (hs : s.Built) (hr : s.resolve n = some (t, h)) {u v : Value}
    (hu : u.depth ≤ v.depth) : follow (s.size * (v.depth + 1)) s n u = ask s n u := by
  have hn : s.Admits (.ref n) := Scope.admits_ref (by simp [hr])
  have hfuel : s.size * (u.depth + 1) ≤ s.size * (v.depth + 1) :=
    Nat.mul_le_mul_left _ (Nat.succ_le_succ hu)
  have hwalk := walk_followOr hs hn hfuel fun n _ => .error (.unresolved n)
  rw [← follow_eq_followOr, validateIn_ref hs hr, walk_expand] at hwalk
  simp only [ask, hr, hwalk]

/-- **Validation is the walk that validates at every name.** -/
theorem validateIn_eq_walk (hs : s.Built) (ht : s.Admits t) (v : Value) :
    validateIn s t v = walk (ask s) t v := by
  have hask : ∀ m ∈ t.references, ∀ u : Value, u.depth ≤ v.depth →
      follow (s.size * (v.depth + 1)) s m u = ask s m u := by
    intro m hm u hu
    obtain ⟨⟨t', h⟩, hr⟩ := Option.isSome_iff_exists.1 (ht.bound m hm)
    exact follow_eq_ask hs hr hu
  refine walk_congr t v (fun m hm => ?_) (fun m hm u hu => ?_)
  · exact hask m (t.unguarded_subset_references hm) v (Nat.le_refl _)
  · exact hask m hm u (Nat.le_of_lt hu)

/-- The equation holds for every type: a name without a meaning is found to have none, however often
names may be expanded. -/
theorem validateIn_eq_ask (hs : s.Built) (t : Schema) (v : Value) :
    validateIn s t v = walk (ask s) t v := by
  have hask : ∀ m (u : Value), u.depth ≤ v.depth →
      follow (s.size * (v.depth + 1)) s m u = ask s m u := by
    intro m u hu
    cases hr : s.resolve m with
    | none => cases s.size * (v.depth + 1) <;> simp [follow, ask, hr]
    | some r => exact follow_eq_ask hs hr hu
  exact walk_congr t v (fun m _ => hask m v (Nat.le_refl _)) fun m _ u hu =>
    hask m u (Nat.le_of_lt hu)

theorem walk_ask (hs : s.Built) : walk (ask s) = validateIn s :=
  funext₂ fun t v => (validateIn_eq_ask hs t v).symm

/-- Validation without a scope is validation in one that binds nothing. -/
theorem validate_eq_validateIn (t : Schema) (v : Value) :
    validate t v = validateIn Scope.void t v := by
  rw [validateIn, Scope.size_void, Nat.zero_mul]
  rfl

/-- At a name the walk goes on with the type it means. -/
theorem walk_ref (hs : s.Built) (hr : s.resolve n = some (t, h)) (v : Value) :
    walk (ask s) (.ref n) v = walk (ask h) t v := by
  obtain ⟨hh, -, hadmits, -⟩ := hs.home hr
  rw [walk_expand, ask, hr]
  exact validateIn_eq_walk hh hadmits v

end Equations

/-! ## Termination -/

theorem compile_ok {s : Scope} {n : String} {w : Validator} (hw : s.compile n = .ok w) :
    w = ⟨s, n⟩ ∧ (s.resolve n).isSome := by
  unfold Scope.compile at hw
  split at hw
  · rename_i t ht
    have hn : (s.lookup n).isSome := by simp [ht]
    exact ⟨(Except.ok.inj hw).symm, Scope.lookup_isSome ▸ hn⟩
  · cases hw

/-- **Validation terminates.** For a validator of a built scope and any value: the calls that the walk
makes form no endless chain; at every call that comes up the outcome is that of the walk without
bound; and the outcome does not change with more fuel, nor with the answer that is given when the
fuel is spent. -/
theorem validate_terminates {s : Scope} (hs : s.Built) {n : String} {w : Validator}
    (hw : s.compile n = .ok w) (v : Value) :
    (¬ ∃ calls : Nat → Call, calls 0 = ⟨w.scope, .ref w.name, v⟩ ∧
      ∀ i, (calls i).Nests (calls (i + 1))) ∧
    (∀ c : Call, Call.Reaches ⟨w.scope, .ref w.name, v⟩ c →
      validateIn c.scope c.type c.value = walk (ask c.scope) c.type c.value) ∧
    (∀ gap fuel, w.scope.size * (v.depth + 1) ≤ fuel →
      followOr gap fuel w.scope w.name v = w.validate v) := by
  obtain ⟨rfl, hn⟩ := compile_ok hw
  refine ⟨?_, fun c hc => ?_, fun gap fuel hfuel => ?_⟩
  · rw [← not_acc_iff_exists_descending_chain (r := fun d c => Call.Nests c d), not_not]
    exact Call.acc_of_built hs (.ref n) v
  · have hlegal := hc.legal (Call.legal_ref hs hn v)
    exact validateIn_eq_walk hlegal.built hlegal.admits c.value
  · have := walk_followOr hs (Scope.admits_ref hn) hfuel gap
    rwa [walk_expand] at this

/-- Walks through trees, in a scope that binds a name of the trees again. -/
theorem validate_terminates_park :
    Builder.park.scope.Built ∧
    Builder.park.scope.compile "Walk" = .ok ⟨Builder.park.scope, "Walk"⟩ ∧
    (¬ ∃ calls : Nat → Call, calls 0 = ⟨Builder.park.scope, .ref "Walk", .list [.list [], .null]⟩ ∧
      ∀ i, (calls i).Nests (calls (i + 1))) ∧
    followOr (fun _ v => .ok v) 12 Builder.park.scope "Walk" (.list [.list [], .null]) =
      validateIn Builder.park.scope (.ref "Walk") (.list [.list [], .null]) := by
  have h := validate_terminates Builder.park_built (n := "Walk") rfl (.list [.list [], .null])
  exact ⟨Builder.park_built, rfl, h.1, h.2.2 _ 12 (by decide)⟩

end Validate

end Conform
