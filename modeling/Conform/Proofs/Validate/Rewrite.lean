import Conform.Proofs.Validate.Origin
import Conform.Proofs.Validate.Rebound

/-!
# Other ways to write a type

An optional type may be written as a union with null, a union among the branches of a union may be
opened, and constraints on a constrained type may be joined. These rules may be applied at any place of
a type, in either direction and any number of times; failures may change, but nothing else does.

* `Schema.Rewrites`: the rules at the root of a type, and `Schema.Rewritten`: their closure;
* `Schema.SameChecks`: types that are the same to the checks of `build`. Rewritten types are, so the
  same bindings are built;
* `walk_agrees`: a walk succeeds in the same cases with the same outputs, when the walks of parts do:
  successes never depend on failures of parts;
* `rewrite_preserves`: the main statement.
-/

namespace Conform

namespace Schema

/-- One rule, at the root of a type. -/
inductive Rewrites : Schema → Schema → Prop
  | nullFirst (t) : Rewrites (.nullable t) (.union [.primitive .null, t])
  | nullLast (t) : Rewrites (.nullable t) (.union [t, .primitive .null])
  | flatten (before ts after) :
    Rewrites (.union (before ++ .union ts :: after)) (.union (before ++ ts ++ after))
  | join (t cs ds) : Rewrites (.refined (.refined t cs) ds) (.refined t (cs ++ ds))

/-- Any number of rules, at any places and in either direction. -/
def Rewritten : Schema → Schema → Prop := Relation.EqvGen (Somewhere Rewrites)

theorem Rewritten.symm {t t' : Schema} (h : Rewritten t t') : Rewritten t' t :=
  Relation.EqvGen.symm _ _ h

/-- An equivalence of types that holds of the rules and passes from parts to types holds of rewritten
types. -/
theorem Rewritten.lift {E : Schema → Schema → Prop} (hE : Equivalence E)
    (hroot : ∀ {t t'}, Rewrites t t' → E t t') (hcongr : ∀ {t t'}, t.Alike E t' → E t t')
    {t t' : Schema} (h : Rewritten t t') : E t t' := by
  induction h with
  | rel t t' h => exact h.lift hE.refl hroot hcongr
  | refl t => exact hE.refl t
  | symm t t' _ ih => exact hE.symm ih
  | trans t t' t'' _ _ ih ih' => exact hE.trans ih ih'

/-! ## The checks of a build -/

/-- The types refer to the same names, in the same places, and declare the same fields twice. -/
structure SameChecks (t t' : Schema) : Prop where
  references : t'.references = t.references
  unguarded : t'.unguarded = t.unguarded
  repeated : t'.repeatedField? = t.repeatedField?

theorem sameChecks_equivalence : Equivalence SameChecks where
  refl _ := ⟨rfl, rfl, rfl⟩
  symm h := ⟨h.references.symm, h.unguarded.symm, h.repeated.symm⟩
  trans h h' := ⟨h'.references.trans h.references, h'.unguarded.trans h.unguarded,
    h'.repeated.trans h.repeated⟩

section SameChecks

variable {t t' : Schema} {ts ts' : List Schema} {fs fs' : List (Field Schema)}

theorem findSome?_cons_or {α β : Type} (f : α → Option β) (a : α) (l : List α) :
    (a :: l).findSome? f = (f a).or (l.findSome? f) := by
  rw [List.findSome?_cons]
  cases f a <;> rfl

theorem repeatedInBranches?_eq (ts : List Schema) :
    repeatedInBranches? ts = ts.findSome? repeatedField? := by
  induction ts with
  | nil => simp [repeatedInBranches?]
  | cons t r ih =>
    rw [repeatedInBranches?, findSome?_cons_or, ih]
    cases t.repeatedField? <;> rfl

theorem sameChecks_union (h : List.Forall₂ SameChecks ts ts') :
    SameChecks (.union ts) (.union ts') := by
  have hall : branchReferences ts' = branchReferences ts ∧
      unguardedBranches ts' = unguardedBranches ts ∧
      repeatedInBranches? ts' = repeatedInBranches? ts := by
    induction h with
    | nil => exact ⟨rfl, rfl, rfl⟩
    | cons ht _ ih =>
      simp only [branchReferences, unguardedBranches, repeatedInBranches?, ht.references,
        ht.unguarded, ht.repeated, ih, and_self]
  obtain ⟨hrefs, hunguarded, hrepeated⟩ := hall
  constructor
  · rw [Schema.references, Schema.references, hrefs]
  · rw [Schema.unguarded, Schema.unguarded, hunguarded]
  · rw [Schema.repeatedField?, Schema.repeatedField?, hrepeated]

theorem fieldReferences_sameChecks (h : List.Forall₂ (Field.Alike SameChecks) fs fs') :
    fieldReferences fs' = fieldReferences fs := by
  induction h with
  | nil => rfl
  | cons hf _ ih => simp only [fieldReferences, hf.type.references, ih]

theorem repeatedInFields?_sameChecks (h : List.Forall₂ (Field.Alike SameChecks) fs fs')
    (seen : List String) : repeatedInFields? seen fs' = repeatedInFields? seen fs := by
  induction h generalizing seen with
  | nil => rfl
  | cons hf _ ih => simp only [repeatedInFields?, hf.name, hf.type.repeated, ih]

theorem sameChecks_record {ex ex' : Extras Schema}
    (hf : List.Forall₂ (Field.Alike SameChecks) fs fs') (hx : ex.Alike SameChecks ex') :
    SameChecks (.record fs ex) (.record fs' ex') := by
  have hrefs := fieldReferences_sameChecks hf
  have hrepeated := repeatedInFields?_sameChecks hf []
  cases hx with
  | closed =>
    exact ⟨by simp only [Schema.references, hrefs], by simp only [Schema.unguarded],
      by simp only [Schema.repeatedField?, hrepeated]⟩
  | ignored =>
    exact ⟨by simp only [Schema.references, hrefs], by simp only [Schema.unguarded],
      by simp only [Schema.repeatedField?, hrepeated]⟩
  | typed h =>
    exact ⟨by simp only [Schema.references, hrefs, h.references], by simp only [Schema.unguarded],
      by simp only [Schema.repeatedField?, hrepeated, h.repeated]⟩

/-- The checks go through types of one shape in the same way. -/
theorem sameChecks_of_alike (h : t.Alike SameChecks t') : SameChecks t t' := by
  cases h with
  | primitive k => exact sameChecks_equivalence.refl _
  | literal ms => exact sameChecks_equivalence.refl _
  | ref n => exact sameChecks_equivalence.refl _
  | nullable h => exact ⟨h.references, h.unguarded, h.repeated⟩
  | array h => exact ⟨h.references, rfl, h.repeated⟩
  | refined cs h => exact ⟨h.references, h.unguarded, h.repeated⟩
  | union h => exact sameChecks_union h
  | record hf hx => exact sameChecks_record hf hx

theorem sameChecks_of_rewrites (h : Rewrites t t') : SameChecks t t' := by
  cases h with
  | nullFirst t => constructor <;> simp [Schema.references, branchReferences, Schema.unguarded,
      unguardedBranches, Schema.repeatedField?, repeatedInBranches?]
  | nullLast t => constructor <;> simp [Schema.references, branchReferences, Schema.unguarded,
      unguardedBranches, Schema.repeatedField?, repeatedInBranches?]
  | flatten before ts after => constructor <;> simp [Schema.references, branchReferences_eq,
      Schema.unguarded, unguardedBranches_eq, Schema.repeatedField?, repeatedInBranches?_eq,
      findSome?_cons_or]
  | join t cs ds => exact ⟨rfl, rfl, rfl⟩

/-- **Rewritten types are the same to the checks.** -/
theorem Rewritten.sameChecks (h : Rewritten t t') : SameChecks t t' :=
  h.lift sameChecks_equivalence sameChecks_of_rewrites sameChecks_of_alike

end SameChecks

end Schema

namespace Builder

variable {b b' : Builder}

theorem Retypes.symm {R : Schema → Schema → Prop} (h : b.Retypes R b')
    (hR : ∀ {t t'}, R t t' → R t' t) : b'.Retypes R b where
  parent := h.parent.symm
  bindings := List.Forall₂.flip (h.bindings.imp fun _ _ he => ⟨he.1.symm, hR he.2⟩)

theorem map_eq_of_forall₂ {α β γ : Type} {f : α → γ} {g : β → γ} {l : List α} {l' : List β}
    (h : List.Forall₂ (fun a b => g b = f a) l l') : l'.map g = l.map f := by
  induction h with
  | nil => rfl
  | cons hab _ ih => rw [List.map_cons, List.map_cons, hab, ih]

/-- The search for unguarded cycles follows the same references. -/
theorem Retypes.edges (h : b.Retypes Schema.SameChecks b') :
    Cycle.edges b'.bindings = Cycle.edges b.bindings := by
  have hhas : ∀ r, Entries.has r b'.bindings = Entries.has r b.bindings := by
    intro r
    rw [Bool.eq_iff_iff, Entries.has_iff_mem_keys, Entries.has_iff_mem_keys, h.keys]
  unfold Cycle.edges
  refine map_eq_of_forall₂ (h.bindings.imp ?_)
  rintro ⟨n, t⟩ ⟨n', t'⟩ ⟨hn, ht⟩
  obtain rfl : n' = n := hn
  simp only [ht.unguarded, hhas]

/-- **Bindings that are the same to the checks are built**, if the others are. -/
theorem Retypes.build (h : b.Retypes Schema.SameChecks b') {s : Scope} (hb : b.build = .ok s) :
    b'.build = .ok b'.scope := by
  obtain ⟨rfl, hcheck, hcycle⟩ := Scope.build_ok hb
  have hall : b'.checkAll b'.bindings = .ok () := by
    refine Scope.checkAll_ok.2 fun e' he' => ?_
    obtain ⟨e, he, -, hsame⟩ := Validate.exists_of_mem_right h.bindings he'
    have hadmits := Scope.admits_of_checkBinding (hcheck e he)
    refine Scope.checkBinding_of_admits ⟨fun n hn => ?_, hsame.repeated.trans hadmits.declared⟩ e'.1
    rw [hsame.references] at hn
    exact (h.rebinds.isSome n).trans (hadmits.bound n hn)
  have hcycle' : Cycle.find? b'.bindings = none := by
    have hlength : b'.bindings.length = b.bindings.length := h.bindings.length_eq.symm
    rw [Cycle.find?, h.edges, hlength]
    exact hcycle
  rw [Builder.build, hall, hcycle']
  rfl

end Builder

/-! ## Successes of a walk -/

namespace Schema

theorem Alike.symm {R : Schema → Schema → Prop} {t t' : Schema} (h : t.Alike R t') :
    t'.Alike (fun u' u => R u u') t := by
  cases h with
  | primitive k => exact .primitive k
  | literal ms => exact .literal ms
  | ref n => exact .ref n
  | nullable h => exact .nullable h
  | array h => exact .array h
  | refined cs h => exact .refined cs h
  | union h => exact .union (List.Forall₂.flip h)
  | record hf hx =>
    refine .record (List.Forall₂.flip (hf.imp fun f f' h => ⟨h.name.symm, h.required.symm, h.type⟩)) ?_
    cases hx with
    | closed => exact .closed
    | ignored => exact .ignored
    | typed h => exact .typed h

end Schema

namespace Validate

section Agrees

variable {e e₁ e₂ : String → Value → Except Failure Value} {R : Schema → Schema → Prop}
  {t t' : Schema} {v o : Value}

theorem toOption_union (ts : List Schema) :
    (walk e (.union ts) v).toOption = ts.findSome? fun t => (walk e t v).toOption := by
  refine Option.ext fun o => ?_
  rw [Outcome.toOption_eq_some, walk_union_ok]

theorem walk_ok_of_alike (h : t.Alike R t')
    (nested : ∀ u u' w, R u u' → (walk e₁ u w).toOption = (walk e₂ u' w).toOption)
    (name : ∀ n w, (e₁ n w).toOption = (e₂ n w).toOption) (ho : walk e₁ t v = .ok o) :
    walk e₂ t' v = .ok o := by
  have part : ∀ u u' w p, R u u' → walk e₁ u w = .ok p → walk e₂ u' w = .ok p :=
    fun u u' w p hR => (Outcome.toOption_eq_toOption.1 (nested u u' w hR) p).1
  cases h with
  | primitive k => exact ho
  | literal ms => exact ho
  | ref n => exact (Outcome.toOption_eq_toOption.1 (name n v) o).1 ho
  | nullable h =>
    exact walk_nullable_ok.2 ((walk_nullable_ok.1 ho).imp_right fun hw => ⟨hw.1, part _ _ v o h hw.2⟩)
  | refined cs h =>
    obtain ⟨ho, hcs⟩ := walk_refined_ok.1 ho
    exact walk_refined_ok.2 ⟨part _ _ v o h ho, hcs⟩
  | @union ts ts' h =>
    rw [← Outcome.toOption_eq_some, toOption_union] at ho ⊢
    rw [← ho]
    clear ho
    induction h with
    | nil => rfl
    | cons hR _ ih => rw [List.findSome?_cons, List.findSome?_cons, nested _ _ v hR, ih]
  | array h =>
    obtain ⟨xs, os, rfl, rfl, hall⟩ := walk_array_ok.1 ho
    exact walk_array_ok.2 ⟨xs, os, rfl, rfl, hall.imp fun u p hup => part _ _ u p h hup⟩
  | @record fs fs' ex ex' hf hx =>
    obtain ⟨m, declared, others, rfl, hd, hothers, rfl⟩ := walk_record_ok.1 ho
    have hsame : undeclared fs' m = undeclared fs m := by
      rw [undeclared_eq, undeclared_eq, names_of_alike hf]
    refine walk_record_ok.2 ⟨m, declared, others, rfl, ?_, ?_, rfl⟩
    · refine walkFields_extends (Field.extends_of_alike hf (fs'.map (·.name)))
        (fun f _ u w o => part u f.type w o) ?_ hd
      exact fun f hf hnot => absurd (List.mem_map_of_mem hf) hnot
    · rw [hsame]
      cases hx with
      | closed => exact hothers
      | ignored => exact hothers
      | typed h =>
        rw [walkExtras_typed, entries_eq_ok] at hothers ⊢
        exact hothers.imp fun en o hen => ⟨hen.1, part _ _ _ _ h hen.2⟩

/-- **Successes depend on successes only**: types of one shape succeed in the same cases with the same
outputs, when their parts do and the names in them do. -/
theorem walk_agrees (h : t.Alike R t')
    (nested : ∀ u u' w, R u u' → (walk e₁ u w).toOption = (walk e₂ u' w).toOption)
    (name : ∀ n w, (e₁ n w).toOption = (e₂ n w).toOption) (v : Value) :
    (walk e₁ t v).toOption = (walk e₂ t' v).toOption := by
  refine Outcome.toOption_eq_toOption.2 fun o => ⟨walk_ok_of_alike h nested name, ?_⟩
  exact walk_ok_of_alike h.symm (fun u' u w hR => (nested u u' w hR).symm) fun n w => (name n w).symm

/-- A walk succeeds in the same cases with the same outputs, when the expansions of names do. -/
theorem walk_expansions (name : ∀ n w, (e₁ n w).toOption = (e₂ n w).toOption) (t : Schema) :
    ∀ v, (walk e₁ t v).toOption = (walk e₂ t v).toOption := by
  induction t using Schema.ind with
  | _ t part =>
    refine walk_agrees t.alike_parts ?_ name
    rintro u _ w ⟨rfl, hu⟩
    exact part _ hu w

/-- **The rules** keep the successes of a walk. An optional type may end with null as its last branch,
since a type that accepts null returns null. -/
theorem walk_rewrites (he : ∀ n v o, e n v = .ok o → Value.From v o) (h : t.Rewrites t')
    (v : Value) : (walk e t v).toOption = (walk e t' v).toOption := by
  cases h with
  | nullFirst t =>
    rw [toOption_union, Schema.findSome?_cons_or, Schema.findSome?_cons_or, List.findSome?_nil,
      Option.or_none, walk_nullable]
    cases v <;> rfl
  | nullLast t =>
    rw [toOption_union, Schema.findSome?_cons_or, Schema.findSome?_cons_or, List.findSome?_nil,
      Option.or_none, walk_nullable]
    cases v with
    | null =>
      cases hw : walk e t .null with
      | error x => rfl
      | ok o =>
        obtain rfl : o = .null := (from_of_walk he t .null o hw).kept.null.2 rfl
        rfl
    | _ => exact (Option.or_none).symm
  | flatten before ts after =>
    simp only [toOption_union, List.findSome?_append, Schema.findSome?_cons_or, Option.or_assoc]
  | join t cs ds =>
    refine Outcome.toOption_eq_toOption.2 fun o => ?_
    simp only [walk_refined_ok, List.forall_mem_append, and_assoc]

/-- Rewritten types succeed in the same cases with the same outputs. -/
theorem walk_rewritten (he : ∀ n v o, e n v = .ok o → Value.From v o) (h : t.Rewritten t') :
    ∀ v, (walk e t v).toOption = (walk e t' v).toOption := by
  have hequiv : Equivalence fun t t' : Schema =>
      ∀ v, (walk e t v).toOption = (walk e t' v).toOption :=
    ⟨fun _ _ => rfl, fun h v => (h v).symm, fun h h' v => (h v).trans (h' v)⟩
  refine h.lift hequiv (walk_rewrites he) fun halike => ?_
  exact walk_agrees halike (fun _ _ w hR => hR w) fun _ _ => rfl

end Agrees

/-- **Other ways to write types.** Let two builders in the same place bind the same names, in the same
order, to types that are rewritten into each other. One is built if and only if the other is; and
then the scopes have validators for the same names, which accept the same values with the same
outputs. -/
theorem rewrite_preserves {b b' : Builder} (h : b.Retypes Schema.Rewritten b') :
    ((∃ s, b.build = .ok s) ↔ ∃ s', b'.build = .ok s') ∧
    ∀ s s', b.build = .ok s → b'.build = .ok s' → ∀ k,
      (∃ x x', s.compile k = .error x ∧ s'.compile k = .error x') ∨
      ∃ w w', s.compile k = .ok w ∧ s'.compile k = .ok w' ∧
        ∀ v o, w.validate v = .ok o ↔ w'.validate v = .ok o := by
  have hsame : b.Retypes Schema.SameChecks b' := h.mono fun hR => hR.sameChecks
  refine ⟨⟨?_, ?_⟩, ?_⟩
  · rintro ⟨s, hs⟩
    exact ⟨_, hsame.build hs⟩
  · rintro ⟨s', hs'⟩
    exact ⟨_, (hsame.symm Schema.sameChecks_equivalence.symm).build hs'⟩
  · intro s s' hs hs' k
    obtain ⟨rfl, -, -⟩ := Scope.build_ok hs
    obtain ⟨rfl, -, -⟩ := Scope.build_ok hs'
    refine (h.rebinds.compile k).imp_right fun hk => ⟨_, _, hk.1, hk.2, fun v => ?_⟩
    refine Outcome.toOption_eq_toOption.1 ?_
    -- the names are expanded equally often, with rewritten types for those that the builders bind
    refine validateIn_rebinds (Q := fun x y => x.toOption = y.toOption) h.rebinds h.size
      (fun _ => rfl) ?_ k v
    intro fuel ih u u' hR w
    rw [walk_expansions ih u w]
    exact walk_rewritten (from_of_follow fuel _) hR w

end Validate

/-! ## An example: an optional leaf as two branches -/

/-- The walks of the park, where an optional leaf is written as two branches of the union. -/
def Builder.lawn : Builder where
  name := "lawn"
  parent := some grove.scope
  bindings :=
    [("Leaf", .primitive .string),
     ("Walk", .union [.ref "Tree", .ref "Leaf", .primitive .null, .array (.ref "Walk")])]

theorem Builder.park_retypes_lawn : park.Retypes Schema.Rewritten lawn := by
  -- first the optional leaf becomes a union, then this union is opened
  have hnull : Schema.Somewhere Schema.Rewrites
      (.union [.ref "Tree", .nullable (.ref "Leaf"), .array (.ref "Walk")])
      (.union [.ref "Tree", .union [.ref "Leaf", .primitive .null], .array (.ref "Walk")]) :=
    .branch [.ref "Tree"] [.array (.ref "Walk")] (.here (.nullLast _))
  have hopen : Schema.Somewhere Schema.Rewrites
      (.union [.ref "Tree", .union [.ref "Leaf", .primitive .null], .array (.ref "Walk")])
      (.union [.ref "Tree", .ref "Leaf", .primitive .null, .array (.ref "Walk")]) :=
    .here (.flatten [.ref "Tree"] _ [.array (.ref "Walk")])
  have hwalk := (Relation.EqvGen.rel _ _ hnull).trans _ _ _ (.rel _ _ hopen)
  exact ⟨rfl, .cons ⟨rfl, .refl _⟩ (.cons ⟨rfl, hwalk⟩ .nil)⟩

namespace Validate

/-- The walks of the park and those of the lawn. -/
theorem rewrite_preserves_park :
    Builder.park.Retypes Schema.Rewritten Builder.lawn ∧
    Builder.park.build = .ok Builder.park.scope ∧ (∃ s', Builder.lawn.build = .ok s') ∧
    ∀ v o, Validator.validate ⟨Builder.park.scope, "Walk"⟩ v = .ok o ↔
      Validator.validate ⟨Builder.lawn.scope, "Walk"⟩ v = .ok o := by
  obtain ⟨hbuilt, hsame⟩ := rewrite_preserves Builder.park_retypes_lawn
  have hpark : Builder.park.build = .ok Builder.park.scope := rfl
  refine ⟨Builder.park_retypes_lawn, hpark, hbuilt.1 ⟨_, hpark⟩, ?_⟩
  have hwalk : Builder.park.scope.compile "Walk" = .ok ⟨Builder.park.scope, "Walk"⟩ := rfl
  have hwalk' : Builder.lawn.scope.compile "Walk" = .ok ⟨Builder.lawn.scope, "Walk"⟩ := rfl
  rcases hsame _ Builder.lawn.scope hpark rfl "Walk" with ⟨x, x', h, -⟩ | ⟨w, w', h, h', hvalidate⟩
  · cases hwalk.symm.trans h
  · obtain rfl := Except.ok.inj (hwalk.symm.trans h)
    obtain rfl := Except.ok.inj (hwalk'.symm.trans h')
    exact hvalidate

end Validate

end Conform
