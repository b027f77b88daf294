import Conform.Proofs.Scope.Accepted
import Conform.Proofs.Validate.Alike

/-!
# A name in place of its type

In a built scope a name that the scope itself binds may be replaced by the type it is bound to, at any
one place in any one binding; in the binding of the name itself this unrolls a recursive type.

* `Schema.Inlines n d t t'`: the type `t'` is `t` with one reference to `n` replaced by `d`;
* `Scope.Built.inline`: the scope with the new binding is built. A reference that is replaced without
  a guard gives way to references of lower levels, so the old rank is a rank of the new bindings;
* `walk_inline`: the walks in both scopes have equal outcomes, by induction along the calls of the
  old scope: one call more or less is all that the replacement makes;
* `inline_preserves`: the main statement.
-/

namespace Conform

namespace Schema

/-- The second type is the first with one reference to `n` replaced by the type `d`. -/
inductive Inlines (n : String) (d : Schema) : Schema → Schema → Prop
  | here : Inlines n d (.ref n) d
  | nullable {t t'} (h : Inlines n d t t') : Inlines n d (.nullable t) (.nullable t')
  | branch (before after) {t t'} (h : Inlines n d t t') :
    Inlines n d (.union (before ++ t :: after)) (.union (before ++ t' :: after))
  | element {t t'} (h : Inlines n d t t') : Inlines n d (.array t) (.array t')
  | field (before after) (k required ex) {t t'} (h : Inlines n d t t') :
    Inlines n d (.record (before ++ ⟨k, t, required⟩ :: after) ex)
      (.record (before ++ ⟨k, t', required⟩ :: after) ex)
  | extras (fs) {t t'} (h : Inlines n d t t') :
    Inlines n d (.record fs (.typed t)) (.record fs (.typed t'))
  | base (cs) {t t'} (h : Inlines n d t t') : Inlines n d (.refined t cs) (.refined t' cs)

/-- The types are the same, or one reference to `n` is replaced by `d`. -/
def Inlined (n : String) (d t t' : Schema) : Prop := t = t' ∨ Inlines n d t t'

section Inlines

variable {n : String} {d t t' : Schema}

theorem forall₂_middle {α : Type} {R : α → α → Prop} (hrefl : ∀ a, R a a) (before after : List α)
    {a a' : α} (h : R a a') : List.Forall₂ R (before ++ a :: after) (before ++ a' :: after) :=
  List.rel_append (List.forall₂_same.2 fun b _ => hrefl b)
    (.cons h (List.forall₂_same.2 fun b _ => hrefl b))

/-- The reference is the whole type, or stands in one of the parts. -/
theorem Inlines.cases (h : Inlines n d t t') :
    (t = .ref n ∧ t' = d) ∨ t.Alike (Inlined n d) t' := by
  have hrefl : ∀ u, Inlined n d u u := fun _ => Or.inl rfl
  have hfield : ∀ f, Field.Alike (Inlined n d) f f := fun f => ⟨rfl, rfl, hrefl f.type⟩
  cases h with
  | here => exact Or.inl ⟨rfl, rfl⟩
  | nullable h => exact Or.inr (.nullable (Or.inr h))
  | branch before after h => exact Or.inr (.union (forall₂_middle hrefl before after (Or.inr h)))
  | element h => exact Or.inr (.array (Or.inr h))
  | field before after k required ex h =>
    exact Or.inr (.record (forall₂_middle hfield before after ⟨rfl, rfl, Or.inr h⟩)
      (Extras.alike_refl fun u _ => hrefl u))
  | extras fs h =>
    exact Or.inr (.record (List.forall₂_same.2 fun f _ => hfield f) (.typed (Or.inr h)))
  | base cs h => exact Or.inr (.refined cs (Or.inr h))

/-- The new type refers to what the old one or the inserted one refers to. -/
theorem Inlines.references (h : Inlines n d t t') {m : String} (hm : m ∈ t'.references) :
    m ∈ t.references ∨ m ∈ d.references := by
  induction t using Schema.ind generalizing t' with
  | _ t part =>
    rcases h.cases with ⟨-, rfl⟩ | halike
    · exact Or.inr hm
    · rcases mem_references.1 hm with rfl | ⟨u', hu', hm⟩
      · cases halike
        exact Or.inl (mem_references.2 (Or.inl rfl))
      · obtain ⟨u, hu, rfl | hinl⟩ := halike.exists_part hu'
        · exact Or.inl (references_of_part hu hm)
        · exact (part u hu hinl hm).imp_left fun hm => references_of_part hu hm

/-- A name in reach of the new type without a guard was in reach, or is in reach of the inserted type
in place of `n`, which was in reach. -/
theorem Inlines.unguarded (h : Inlines n d t t') {m : String} (hm : m ∈ t'.unguarded) :
    m ∈ t.unguarded ∨ (n ∈ t.unguarded ∧ m ∈ d.unguarded) := by
  induction t using Schema.ind generalizing t' with
  | _ t part =>
    rcases h.cases with ⟨rfl, rfl⟩ | halike
    · exact Or.inr ⟨by simp [Schema.unguarded], hm⟩
    · rcases halike.unguarded hm with rfl | ⟨u, hu, hsub, u', rfl | hinl, hm⟩
      · exact Or.inl (by simp [Schema.unguarded])
      · exact Or.inl (hsub hm)
      · exact (part u hu hinl hm).imp (fun hm => hsub hm) fun hnm => ⟨hsub hnm.1, hnm.2⟩

/-- The new type declares no field twice, if neither the old one nor the inserted one does. -/
theorem Inlines.repeatedField? (h : Inlines n d t t') (ht : t.repeatedField? = none)
    (hd : d.repeatedField? = none) : t'.repeatedField? = none := by
  induction t using Schema.ind generalizing t' with
  | _ t part =>
    rcases h.cases with ⟨-, rfl⟩ | halike
    · exact hd
    · obtain ⟨hnames, hparts⟩ := repeatedField?_eq_none.1 ht
      refine repeatedField?_eq_none.2 ⟨fun fs' ex' hrec => ?_, fun u' hu' => ?_⟩
      · subst hrec
        cases halike with
        | record hf hx => exact names_of_alike hf ▸ hnames _ _ rfl
      · obtain ⟨u, hu, rfl | hinl⟩ := halike.exists_part hu'
        · exact hparts u hu
        · exact part u hu hinl (hparts u hu)

end Inlines

end Schema

namespace Scope

/-! ## The scope with the new binding -/

/-- The scopes stand in the same place and bind the same names, to related types. -/
structure Rebinds (R : Schema → Schema → Prop) (s s' : Scope) : Prop where
  parent : s'.parent = s.parent
  bindings : ∀ k, (Entries.find? k s.bindings = none ∧ Entries.find? k s'.bindings = none) ∨
    ∃ u u', Entries.find? k s.bindings = some u ∧ Entries.find? k s'.bindings = some u' ∧ R u u'

/-- A name means nothing in both scopes, or related types that they bind, or the same type of a scope
around them. -/
theorem Rebinds.resolve {R : Schema → Schema → Prop} {s s' : Scope} (h : Rebinds R s s')
    (k : String) : (s.resolve k = none ∧ s'.resolve k = none) ∨
    (∃ u u', s.resolve k = some (u, s) ∧ s'.resolve k = some (u', s') ∧ R u u') ∨
    ∃ u home, s.resolve k = some (u, home) ∧ s'.resolve k = some (u, home) := by
  rcases h.bindings k with ⟨hnone, hnone'⟩ | ⟨u, u', hu, hu', hR⟩
  · have hk : k ∉ s.names := (Entries.find?_eq_none_iff k _).1 hnone
    have hk' : k ∉ s'.names := (Entries.find?_eq_none_iff k _).1 hnone'
    cases hp : s.parent with
    | none =>
      have hunbound : ∀ q : Scope, q.parent = none → Entries.find? k q.bindings = none →
          q.resolve k = none := by
        rintro ⟨nm, parent, bs⟩ rfl hbs
        simp only [Scope.resolve, show Entries.find? k bs = none from hbs, Option.map_none]
      exact Or.inl ⟨hunbound s hp hnone, hunbound s' (h.parent.trans hp) hnone'⟩
    | some p =>
      rw [resolve_of_notMem hp hk, resolve_of_notMem (h.parent.trans hp) hk']
      cases p.resolve k with
      | none => exact Or.inl ⟨rfl, rfl⟩
      | some r => exact Or.inr (Or.inr ⟨r.1, r.2, rfl, rfl⟩)
  · exact Or.inr (Or.inl ⟨u, u', resolve_of_find? hu, resolve_of_find? hu', hR⟩)

theorem Rebinds.isSome {R : Schema → Schema → Prop} {s s' : Scope} (h : Rebinds R s s')
    (k : String) : (s'.resolve k).isSome = (s.resolve k).isSome := by
  rcases h.resolve k with ⟨h₁, h₂⟩ | ⟨u, u', h₁, h₂, -⟩ | ⟨u, home, h₁, h₂⟩ <;> simp [h₁, h₂]

section Inline

variable {s : Scope} {n m : String} {d t t' : Schema} {before after : List (String × Schema)}

/-- What a name is bound to, before and after a reference is replaced in one binding. -/
theorem find?_inline (ht : Schema.Inlines n d t t') (k : String) :
    (Entries.find? k (before ++ (m, t) :: after) = none ∧
      Entries.find? k (before ++ (m, t') :: after) = none) ∨
    ∃ u u', Entries.find? k (before ++ (m, t) :: after) = some u ∧
      Entries.find? k (before ++ (m, t') :: after) = some u' ∧ Schema.Inlined n d u u' := by
  rw [Entries.find?_append, Entries.find?_append]
  cases hbefore : Entries.find? k before with
  | some u => exact Or.inr ⟨u, u, rfl, rfl, Or.inl rfl⟩
  | none =>
    by_cases hk : m = k
    · exact Or.inr ⟨t, t', by simp [Entries.find?, hk], by simp [Entries.find?, hk], Or.inr ht⟩
    · cases hafter : Entries.find? k after with
      | none => exact Or.inl ⟨by simp [Entries.find?, hk, hafter], by simp [Entries.find?, hk, hafter]⟩
      | some u =>
        exact Or.inr ⟨u, u, by simp [Entries.find?, hk, hafter], by simp [Entries.find?, hk, hafter],
          Or.inl rfl⟩

/-- The builder of the scope with the new binding. -/
def rebuilder (s : Scope) (bs : List (String × Schema)) : Builder := ⟨s.name, s.parent, bs⟩

theorem rebinds_inline (hbs : s.bindings = before ++ (m, t) :: after)
    (ht : Schema.Inlines n d t t') :
    Rebinds (Schema.Inlined n d) s (s.rebuilder (before ++ (m, t') :: after)).scope where
  parent := rfl
  bindings k := by
    rw [hbs]
    exact find?_inline ht k

/-- The old rank is a rank of the new bindings: where a reference to `n` gives way to the references
of its type, these are below `n`. -/
theorem isRank_inline {r : String → Nat} (hr : Cycle.IsRank (before ++ (m, t) :: after) r)
    (hn : Entries.find? n (before ++ (m, t) :: after) = some d) (ht : Schema.Inlines n d t t') :
    Cycle.IsRank (before ++ (m, t') :: after) r := by
  have hkeys : Entries.keys (before ++ (m, t') :: after) =
      Entries.keys (before ++ (m, t) :: after) := by simp [Entries.keys]
  have hold : ∀ {k u'}, Entries.find? k (before ++ (m, t') :: after) = some u' →
      ∃ u, Entries.find? k (before ++ (m, t) :: after) = some u ∧ Schema.Inlined n d u u' := by
    intro k u' hu'
    rcases find?_inline ht k with ⟨-, hnone⟩ | ⟨u, u'', hu, hu'', hinl⟩
    · rw [hnone] at hu'
      cases hu'
    · obtain rfl := Option.some.inj (hu'.symm.trans hu'')
      exact ⟨u, hu, hinl⟩
  refine ⟨fun hu' => ?_, fun k => by simpa using hr.le k, fun hu' hk hmem => ?_⟩
  · obtain ⟨u, hu, -⟩ := hold hu'
    exact hr.pos hu
  · rw [hkeys] at hmem
    obtain ⟨u, hu, rfl | hinl⟩ := hold hu'
    · exact hr.lt hu hk hmem
    · rcases hinl.unguarded hk with hk | ⟨hnu, hk⟩
      · exact hr.lt hu hk hmem
      · exact Nat.lt_trans (hr.lt hn hk hmem) (hr.lt hu hnu (Entries.mem_keys_of_find? hn))

/-- **The scope with the new binding is built.** -/
theorem Built.inline (hs : s.Built) (hbs : s.bindings = before ++ (m, t) :: after)
    (hn : Entries.find? n s.bindings = some d) (ht : Schema.Inlines n d t t') :
    (s.rebuilder (before ++ (m, t') :: after)).build =
      .ok (s.rebuilder (before ++ (m, t') :: after)).scope := by
  obtain ⟨r, hr⟩ := hs.exists_rank
  have hrebinds := rebinds_inline hbs ht
  have hd := hs.admits hn
  have hbound : ∀ u, (∀ k ∈ u.references, (s.resolve k).isSome) → u.repeatedField? = none →
      (s.rebuilder (before ++ (m, t') :: after)).scope.Admits u := fun u hrefs hrep =>
    ⟨fun k hk => (hrebinds.isSome k).trans (hrefs k hk), hrep⟩
  refine build_of_admits (fun e he => ?_) (isRank_inline (hbs ▸ hr) (hbs ▸ hn) ht)
  rcases List.mem_append.1 he with he | he
  · have hold := hs.admits_of_mem (n := e.1) (hbs ▸ List.mem_append_left _ he)
    exact hbound e.2 hold.bound hold.declared
  · rcases List.mem_cons.1 he with rfl | he
    · have hold := hs.admits_of_mem (n := m) (t := t) (by simp [hbs])
      refine hbound t' (fun k hk => ?_) (ht.repeatedField? hold.declared hd.declared)
      exact (ht.references hk).elim (hold.bound k) (hd.bound k)
    · have hold := hs.admits_of_mem (n := e.1) (t := e.2)
        (hbs ▸ List.mem_append_right _ (List.mem_cons_of_mem _ he))
      exact hbound e.2 hold.bound hold.declared

theorem Built.rebuilt {bs : List (String × Schema)} (hs : s.Built)
    (hb : (s.rebuilder bs).build = .ok (s.rebuilder bs).scope) : (s.rebuilder bs).scope.Built := by
  cases hp : s.parent with
  | none => exact .root (b := s.rebuilder bs) hp hb
  | some p => exact .nested (b := s.rebuilder bs) hp (hs.parent hp) hb

end Inline

end Scope

namespace Validate

/-! ## The walks in both scopes -/

/-- **The simulation.** A type is walked in the old scope as in the new one, also when one reference to
`n` in it is replaced. The induction is along the calls of the old scope: where the old walk expands
the reference, the new one has arrived at the type already. -/
theorem walk_inline {s s' : Scope} (hs' : s'.Built) {n : String} {d : Schema}
    (hrebinds : s.Rebinds (Schema.Inlined n d) s') (hn : Entries.find? n s.bindings = some d)
    {c : Call} (hc : c.Legal) : c.scope = s → ∀ t', Schema.Inlined n d c.type t' →
      walk (ask s) c.type c.value = walk (ask s') t' c.value := by
  induction hc using Call.Legal.ind with
  | _ c hc ih =>
    obtain ⟨home, t, v⟩ := c
    intro hhome t' ht
    obtain rfl : home = s := hhome
    -- types of one shape: the nested calls stay in the scope, and a name is looked up in both
    have alike : t.Alike (Schema.Inlined n d) t' →
        walk (ask home) t v = walk (ask s') t' v := by
      intro halike
      refine walk_alike halike (fun u u' w hnests hu => ih _ hnests rfl u' hu) fun k hk => ?_
      subst hk
      show walk (ask home) (.ref k) v = walk (ask s') (.ref k) v
      rcases hrebinds.resolve k with ⟨hnone, -⟩ | ⟨u, u', hu, hu', hR⟩ | ⟨u, around, hu, hu'⟩
      · obtain ⟨u, _, hu⟩ := hc.target
        simp [hnone] at hu
      · rw [walk_ref hc.built hu, walk_ref hs' hu']
        exact ih _ (.target hu) rfl u' hR
      · rw [walk_ref hc.built hu, walk_ref hs' hu']
    rcases ht with rfl | ht
    · exact alike (Schema.alike_refl (fun _ => Or.inl rfl) t)
    · rcases ht.cases with ⟨rfl, rfl⟩ | halike
      · have hr := Scope.resolve_of_find? hn
        rw [walk_ref hc.built hr]
        exact ih _ (.target hr) rfl _ (Or.inl rfl)
      · exact alike halike

/-- **A name in place of its type.** In a built scope let `n` be bound to the type `d`, in the scope
itself, and let one reference to `n` in one binding be replaced by `d`. The new bindings are built, and
the two scopes have the same names, with validators that give the same outcomes: the same output, or
the same failure with its path and causes. -/
theorem inline_preserves {s : Scope} (hs : s.Built) {n : String} {d : Schema}
    (hn : Entries.find? n s.bindings = some d) {before after : List (String × Schema)} {m : String}
    {t t' : Schema} (hbs : s.bindings = before ++ (m, t) :: after) (ht : Schema.Inlines n d t t') :
    ∃ s', Builder.build ⟨s.name, s.parent, before ++ (m, t') :: after⟩ = .ok s' ∧
      ∀ k, (∃ x, s.compile k = .error x ∧ s'.compile k = .error x) ∨
        ∃ w w', s.compile k = .ok w ∧ s'.compile k = .ok w' ∧ ∀ v, w'.validate v = w.validate v := by
  have hb := hs.inline hbs hn ht
  have hs' := hs.rebuilt hb
  have hrebinds := Scope.rebinds_inline hbs ht
  refine ⟨_, hb, fun k => ?_⟩
  rw [Scope.compile_eq, Scope.compile_eq, hrebinds.isSome k]
  cases hk : (s.resolve k).isSome with
  | false => exact Or.inl ⟨_, rfl, rfl⟩
  | true =>
    refine Or.inr ⟨_, _, rfl, rfl, fun v => ?_⟩
    have hk' := (hrebinds.isSome k).trans hk
    rw [Validator.validate, Validator.validate, validateIn_eq_walk hs (Scope.admits_ref hk),
      validateIn_eq_walk hs' (Scope.admits_ref hk')]
    exact (walk_inline hs' hrebinds hn (Call.legal_ref hs hk v) rfl _ (Or.inl rfl)).symm

/-- The type of trees, unrolled once inside itself. -/
theorem inline_preserves_grove :
    Builder.grove.scope.Built ∧
    ∃ s', Builder.build ⟨"grove", none,
        [("Leaf", .primitive .int),
         ("Tree", .record [⟨"leaf", .ref "Leaf", false⟩, ⟨"kids", .array (.record
            [⟨"leaf", .ref "Leaf", false⟩, ⟨"kids", .array (.ref "Tree"), false⟩] .closed), false⟩]
            .closed)]⟩ = .ok s' ∧
      ∀ k, (∃ x, Builder.grove.scope.compile k = .error x ∧ s'.compile k = .error x) ∨
        ∃ w w', Builder.grove.scope.compile k = .ok w ∧ s'.compile k = .ok w' ∧
          ∀ v, w'.validate v = w.validate v := by
  have hbs : Builder.grove.scope.bindings = [("Leaf", .primitive .int)] ++ ("Tree", _) :: [] := rfl
  exact ⟨Builder.grove_built, inline_preserves (n := "Tree") Builder.grove_built rfl hbs
    (.field [⟨"leaf", .ref "Leaf", false⟩] [] "kids" false .closed (.element .here))⟩

end Validate

end Conform
