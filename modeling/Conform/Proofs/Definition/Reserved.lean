import Conform.Proofs.Definition.Build
import Conform.Proofs.Definition.Lowering
import Conform.Proofs.Validate.Unused

/-!
# Reserved names

Names that are reserved for kinds may be defined, but nothing written refers to such a definition: the
name stands for its kind all the same. So the definition can be left out, and every other name keeps
its meaning, in the scope and in all that is built inside it.

* `Builder.unused_of_standsFor`: what definitions stand for does not refer to reserved names;
* `Builder.buildFrom_without`: the definitions are built without the one of a reserved name;
* `Builder.agree_inside`: what is built inside a scope is built inside one that differs at the name;
* `lowering_exact`: the main statement.
-/

namespace Conform

open Entries (keys)
open Scope (Unused)

namespace Builder

variable [PatternEngine]

/-! ## Definitions do not refer to reserved names -/

theorem unused_of_standsFor {ds : List TypeDefinition} {es : List (String × Schema)}
    (h : List.Forall₂ StandsFor ds es) {n : String} (hn : (Kind.ofName? n).isSome) :
    Unused n es := by
  intro e he hmem
  obtain ⟨d, -, -, hd⟩ := Validate.exists_of_mem_right h he
  rw [TypeSyntax.references_of_lowersTo d.type ((TypeSyntax.lower_eq_ok d.type).1 hd)] at hmem
  rw [Mention.ofName?_of_mem_unreserved hmem] at hn
  cases hn

theorem built_of_buildFrom {b : Builder} (hb : ∀ p, b.parent = some p → p.Built) {d : Definitions}
    {s : Scope} (hs : b.buildFrom d = .ok s) : s.Built := by
  obtain ⟨es, -, -, -, hwf, rfl⟩ := buildFrom_eq_ok.1 hs
  have hbuild : (b.extend es).build = .ok (b.extend es).scope := Scope.build_eq_ok_iff.2 ⟨hwf, rfl⟩
  cases hp : b.parent with
  | none => exact .root (b := b.extend es) hp hbuild
  | some p => exact .nested (b := b.extend es) hp (hb p hp) hbuild

/-! ## Without a definition -/

theorem standsFor_middle {before after : List TypeDefinition} {d : TypeDefinition}
    {es : List (String × Schema)} (h : List.Forall₂ StandsFor (before ++ d :: after) es) :
    ∃ es₁ t es₂, es = es₁ ++ (d.name, t) :: es₂ ∧ List.Forall₂ StandsFor before es₁ ∧
      List.Forall₂ StandsFor after es₂ := by
  induction before generalizing es with
  | nil =>
    obtain ⟨⟨n, t⟩, es₂, ⟨rfl, -⟩, hafter, rfl⟩ := List.forall₂_cons_left_iff.1 h
    exact ⟨[], t, es₂, rfl, .nil, hafter⟩
  | cons d' before ih =>
    obtain ⟨e, rest, he, hrest, rfl⟩ := List.forall₂_cons_left_iff.1 h
    obtain ⟨es₁, t, es₂, rfl, hbefore, hafter⟩ := ih hrest
    exact ⟨e :: es₁, t, es₂, rfl, .cons he hbefore, hafter⟩

section Without

omit [PatternEngine]

variable {b : Builder} {es₁ es₂ : List (String × Schema)} {n : String} {t : Schema}

theorem bindings_without : (b.extend (es₁ ++ es₂)).bindings ⊆
    (b.extend (es₁ ++ (n, t) :: es₂)).bindings := by
  have hsub : (es₁ ++ es₂).Sublist (es₁ ++ (n, t) :: es₂) :=
    (List.sublist_cons_self (n, t) es₂).append_left es₁
  exact (hsub.append_left b.bindings).subset

theorem find?_without {k : String} (hk : k ≠ n) :
    Entries.find? k (b.extend (es₁ ++ es₂)).bindings =
      Entries.find? k (b.extend (es₁ ++ (n, t) :: es₂)).bindings := by
  simp only [extend, Entries.find?_append, Entries.find?, if_neg hk.symm]

theorem differsAt_without (h : Unused n (b.extend (es₁ ++ (n, t) :: es₂)).bindings) :
    (b.extend (es₁ ++ (n, t) :: es₂)).scope.DiffersAt n (b.extend (es₁ ++ es₂)).scope :=
  .here b.name b.parent (fun _ hk => find?_without hk) h fun e he => h e (bindings_without he)

/-- Bindings stay well formed without one that nothing refers to. -/
theorem WellFormed.without (hwf : (b.extend (es₁ ++ (n, t) :: es₂)).WellFormed)
    (h : Unused n (b.extend (es₁ ++ (n, t) :: es₂)).bindings)
    (hn : n ∉ keys (b.extend (es₁ ++ es₂)).bindings) : (b.extend (es₁ ++ es₂)).WellFormed := by
  refine hwf.differsAt (differsAt_without h) (fun e he => h e (bindings_without he))
    bindings_without fun {k u} hu => ?_
  have hk : k ≠ n := fun heq => hn (heq ▸ Entries.mem_keys_of_find? hu)
  exact (find?_without hk).symm.trans hu

end Without

/-- **The definition of a reserved name can be left out.** -/
theorem buildFrom_without {b : Builder} {before after : List TypeDefinition} {d : TypeDefinition}
    (hd : (Kind.ofName? d.name).isSome) (hb : Unused d.name b.bindings) {s : Scope}
    (hs : b.buildFrom ⟨before ++ d :: after⟩ = .ok s) :
    ∃ s', b.buildFrom ⟨before ++ after⟩ = .ok s' ∧ s.DiffersAt d.name s' := by
  obtain ⟨es, hes, hnodup, hnew, hwf, rfl⟩ := buildFrom_eq_ok.1 hs
  have hunused : Unused d.name (b.extend es).bindings := fun e he =>
    (List.mem_append.1 he).elim (hb e) (unused_of_standsFor hes hd e)
  obtain ⟨es₁, t, es₂, rfl, hbefore, hafter⟩ := standsFor_middle hes
  have hperm : (keys (es₁ ++ (d.name, t) :: es₂)).Perm (d.name :: keys (es₁ ++ es₂)) :=
    List.perm_middle.map _
  obtain ⟨hfree, hnodup'⟩ := List.nodup_cons.1 (hperm.nodup_iff.1 hnodup)
  have hnew' : ∀ k ∈ d.name :: keys (es₁ ++ es₂), k ∉ keys b.bindings := fun k hk =>
    hnew k (hperm.mem_iff.2 hk)
  have habsent : d.name ∉ keys (b.extend (es₁ ++ es₂)).bindings := by
    rw [extend, Entries.keys_append, List.mem_append]
    exact not_or.2 ⟨hnew' _ List.mem_cons_self, hfree⟩
  refine ⟨_, buildFrom_eq_ok.2 ⟨es₁ ++ es₂, List.rel_append hbefore hafter, hnodup', ?_,
    hwf.without hunused habsent, rfl⟩, differsAt_without hunused⟩
  exact fun k hk => hnew' k (List.mem_cons_of_mem _ hk)

/-! ## Inside the scope -/

/-- **What is built inside a scope is built inside a scope that differs at a reserved name.** -/
theorem buildFrom_around {p p' : Scope} {n : String} (h : p.DiffersAt n p')
    (hn : (Kind.ofName? n).isSome) {u : String} {d : Definitions} {s : Scope}
    (hs : (empty u (some p)).buildFrom d = .ok s) :
    ∃ s', (empty u (some p')).buildFrom d = .ok s' ∧ s.DiffersAt n s' := by
  obtain ⟨es, hes, hnodup, hnew, hwf, rfl⟩ := buildFrom_eq_ok.1 hs
  have hunused : Unused n es := unused_of_standsFor hes hn
  have hdiff : ((empty u (some p)).extend es).scope.DiffersAt n
      ((empty u (some p')).extend es).scope := .around u h hunused
  have hwf' : ((empty u (some p')).extend es).WellFormed :=
    hwf.differsAt hdiff hunused (List.Subset.refl _) id
  exact ⟨_, buildFrom_eq_ok.2 ⟨es, hes, hnodup, hnew, hwf', rfl⟩, hdiff⟩

theorem built_inside {p s : Scope} (hp : p.Built) {u : String} {d : Definitions}
    (hs : (empty u (some p)).buildFrom d = .ok s) : s.Built := by
  refine built_of_buildFrom (fun p' hp' => ?_) hs
  obtain rfl : p = p' := Option.some.inj hp'
  exact hp

/-- **The same is built inside both scopes**, and all names but the reserved one have the same meaning
there. -/
theorem agree_inside {p p' : Scope} (hp : p.Built) (hp' : p'.Built) {n : String} (h : p.DiffersAt n p')
    (hn : (Kind.ofName? n).isSome) (u : String) (d : Definitions) :
    ((∃ s, (empty u (some p)).buildFrom d = .ok s) ↔ ∃ s', (empty u (some p')).buildFrom d = .ok s') ∧
    ∀ s s', (empty u (some p)).buildFrom d = .ok s → (empty u (some p')).buildFrom d = .ok s' →
      ∀ k, k ≠ n → s.Agree s' k := by
  refine ⟨⟨?_, ?_⟩, fun s s' hs hs' k hk => ?_⟩
  · rintro ⟨s, hs⟩
    obtain ⟨s', hs', -⟩ := buildFrom_around h hn hs
    exact ⟨s', hs'⟩
  · rintro ⟨s', hs'⟩
    obtain ⟨s, hs, -⟩ := buildFrom_around h.symm hn hs'
    exact ⟨s, hs⟩
  · obtain ⟨s₁, hs₁, hdiff⟩ := buildFrom_around h hn hs
    obtain rfl := Except.ok.inj (hs'.symm.trans hs₁)
    exact Validate.agree_of_differsAt (built_inside hp hs) (built_inside hp' hs') hdiff hk

end Builder

/-- **Lowering is exact**, whatever engine reads the patterns. A type as written is lowered if every
name in it is reserved for a kind or starts with a capital, and the engine accepts every pattern; else
the fault is that of the first name or pattern that is not sound, in the order of the source. The type that it is lowered to has its shape,
refers to the names that are not reserved, in the order of the source, and holds no reference to a
reserved name. So a definition of a reserved name can be left out: all other names keep their meaning,
also in what is built inside the scope. -/
theorem lowering_exact [PatternEngine] :
    (∀ t : TypeSyntax,
      ((∃ u, t.lower = .ok u) ↔ ∀ m ∈ t.mentions, m.Sound) ∧
      (∀ x, t.lower = .error x ↔ ∃ before m after, t.mentions = before ++ m :: after ∧
        (∀ k ∈ before, k.Sound) ∧ m.Fault x) ∧
      ∀ u, t.lower = .ok u → t.LowersTo u ∧ u.references = Mention.unreserved t.mentions ∧
        ∀ n, u.Contains (.ref n) → Kind.ofName? n = none) ∧
    ∀ (b : Builder) (before after : List TypeDefinition) (d : TypeDefinition) (s : Scope),
      (∀ p, b.parent = some p → p.Built) → (∀ e ∈ b.bindings, ¬ e.2.Contains (.ref d.name)) →
      (Kind.ofName? d.name).isSome → b.buildFrom ⟨before ++ d :: after⟩ = .ok s →
      ∃ s', b.buildFrom ⟨before ++ after⟩ = .ok s' ∧ (∀ k, k ≠ d.name → s.Agree s' k) ∧
        ∀ u ds, ((∃ w, (Builder.empty u (some s)).buildFrom ds = .ok w) ↔
            ∃ w', (Builder.empty u (some s')).buildFrom ds = .ok w') ∧
          ∀ w w', (Builder.empty u (some s)).buildFrom ds = .ok w →
            (Builder.empty u (some s')).buildFrom ds = .ok w' → ∀ k, k ≠ d.name → w.Agree w' k := by
  refine ⟨fun t => ⟨?_, fun x => ?_, fun u hu => ?_⟩, ?_⟩
  · simp only [← Outcome.error?_eq_none, TypeSyntax.error?_lower, List.findSome?_eq_none_iff,
      Mention.fault?_eq_none]
  · rw [← Outcome.error?_eq_some, TypeSyntax.error?_lower, Mention.findSome?_fault?]
  · have hshape : t.LowersTo u := (TypeSyntax.lower_eq_ok t).1 hu
    have hrefs : u.references = Mention.unreserved t.mentions :=
      TypeSyntax.references_of_lowersTo t hshape
    refine ⟨hshape, hrefs, fun n hn => ?_⟩
    exact Mention.ofName?_of_mem_unreserved (hrefs ▸ Schema.mem_references_iff.2 hn)
  · intro b before after d s hb hown hn hs
    have hunused : Unused d.name b.bindings := fun e he hmem =>
      hown e he (Schema.mem_references_iff.1 hmem)
    obtain ⟨s', hs', hdiff⟩ := Builder.buildFrom_without hn hunused hs
    have hbuilt : s.Built := Builder.built_of_buildFrom hb hs
    have hbuilt' : s'.Built := Builder.built_of_buildFrom hb hs'
    refine ⟨s', hs', fun k hk => ?_, Builder.agree_inside hbuilt hbuilt' hdiff hn⟩
    exact Validate.agree_of_differsAt hbuilt hbuilt' hdiff hk

/-- Coats have a size; whole numbers are said to be lists of sizes, which nothing takes up. -/
def Builder.coats : List TypeDefinition :=
  [⟨"Size", .subtypeConstraint (.typeRef "Int") [⟨none, .compare .gt (.ofNat 0)⟩]⟩,
    ⟨"Int", .arrayType (.typeRef "Size")⟩,
    ⟨"Coat", .typeSchema [⟨"size", .typeRef "Size", false⟩] (.typed (.typeRef "Int"))⟩]

/-- A type with a regular expression, an unknown name and a pattern that is none. -/
def TypeSyntax.misspelt : TypeSyntax :=
  .typeSchema
    [⟨"code", .subtypeConstraint (.typeRef "String") [⟨none, .all [.matching "a+", .odd]⟩], true⟩,
      ⟨"sizes", .arrayType (.typeRef "size"), false⟩]
    (.typed (.subtypeConstraint (.typeRef "Size") [⟨none, .not (.matching "(")⟩]))

/-- The unknown name is reported and not the pattern behind it; the coats are built without the list of
sizes, and are the same. -/
theorem lowering_exact_coats :
    TypeSyntax.misspelt.lower = .error (.unknownType "size") ∧
    (∃ u, (TypeSyntax.arrayType (.typeRef "Size")).lower = .ok u ∧ u.references = ["Size"]) ∧
    (Kind.ofName? "Int").isSome ∧
    ∃ s s', (Builder.empty "shop" none).buildFrom ⟨Builder.coats⟩ = .ok s ∧
      (Builder.empty "shop" none).buildFrom ⟨Builder.coats.eraseIdx 1⟩ = .ok s' ∧
      s.Agree s' "Coat" := by
  obtain ⟨htypes, hreserved⟩ := lowering_exact
  have hmentions : TypeSyntax.misspelt.mentions =
      [.name "String", .pattern "a+"] ++ .name "size" :: [.name "Size", .pattern "("] := rfl
  have hsound : ∀ k ∈ [Mention.name "String", .pattern "a+"], k.Sound := by
    have hname : (Mention.name "String").Sound := Or.inl (by decide)
    have hpattern : (Mention.pattern "a+").Sound := ⟨_, rfl⟩
    simp [hname, hpattern]
  have hfault : (Mention.name "size").Fault (.unknownType "size") := .name (by decide) (by decide)
  have hrefs : (Schema.array (.ref "Size")).references = ["Size"] :=
    ((htypes (.arrayType (.typeRef "Size"))).2.2 _ rfl).2.1
  obtain ⟨s, hs⟩ : ∃ s, (Builder.empty "shop" none).buildFrom ⟨Builder.coats⟩ = .ok s := ⟨_, rfl⟩
  obtain ⟨s', hs', hagree, -⟩ := hreserved (Builder.empty "shop" none) [_] [_] _ s
    (by simp [Builder.empty]) (by simp [Builder.empty]) (by decide) hs
  refine ⟨?_, ⟨_, rfl, hrefs⟩, by decide, s, s', hs, hs', hagree "Coat" (by decide)⟩
  exact ((htypes _).2.1 _).2 ⟨_, _, _, hmentions, hsound, hfault⟩

end Conform
