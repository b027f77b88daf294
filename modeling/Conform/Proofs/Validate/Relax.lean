import Conform.Proofs.Validate.Origin
import Conform.Proofs.Validate.Rebound

/-!
# Relaxed types

A type is relaxed when a required field becomes optional, a closed record ignores other keys or gets a
new optional field, a type becomes optional, a constraint is removed or a literal type gets more
members. Where no type is a union, what was accepted is accepted after any number of such edits, with
the same output: an edit never comes before an alternative that matched.

* `Schema.Relaxes`: one edit at the root of a type, and `Schema.Relaxed`: edits at any places;
* `Schema.Wider t t'`: the type `t'` is `t` with all edits made at once. New fields have types of any
  shape, unions too, that no value accepted by `t` ever meets. So the edits made inside new fields do
  not count, and `Wider` is closed under edits (`Wider.edit`) where acceptance alone is not;
* `walk_wider`: the walk of a wider type gives the same outputs;
* `relax_preserves`: the main statement.
-/

namespace Conform

/-- Other keys are treated alike, or ignored where they were refused. -/
inductive Extras.Eases (R : Schema → Schema → Prop) : Extras Schema → Extras Schema → Prop
  | alike {ex ex'} (h : ex.Alike R ex') : Eases R ex ex'
  | ignore : Eases R .closed .ignored

namespace Schema

/-- One edit that relaxes a type, at its root. -/
inductive Relaxes : Schema → Schema → Prop
  | optional (before after k t ex) :
    Relaxes (.record (before ++ ⟨k, t, true⟩ :: after) ex)
      (.record (before ++ ⟨k, t, false⟩ :: after) ex)
  | ignore (fs) : Relaxes (.record fs .closed) (.record fs .ignored)
  | add (before after k t) (hk : k ∉ (before ++ after).map (·.name)) :
    Relaxes (.record (before ++ after) .closed) (.record (before ++ ⟨k, t, false⟩ :: after) .closed)
  | wrap (t) : Relaxes t (.nullable t)
  | drop (t before c after) :
    Relaxes (.refined t (before ++ c :: after)) (.refined t (before ++ after))
  | append (ms more) : Relaxes (.literal ms) (.literal (ms ++ more))

/-- Any number of edits, at any places. -/
def Relaxed : Schema → Schema → Prop := Relation.ReflTransGen (Somewhere Relaxes)

/-- The second type is the first, which has no union in it, after edits at any places. -/
inductive Wider : Schema → Schema → Prop
  | primitive (k) : Wider (.primitive k) (.primitive k)
  | literal (ms more) : Wider (.literal ms) (.literal (ms ++ more))
  | nullable {t t'} (h : Wider t t') : Wider (.nullable t) (.nullable t')
  | wrapped {t t'} (h : Wider t t') : Wider t (.nullable t')
  | array {t t'} (h : Wider t t') : Wider (.array t) (.array t')
  | record {fs fs' ex ex'} (hf : Field.Extends Wider fs fs' (fs.map (·.name)))
      (hx : Extras.Eases Wider ex ex') (hnames : ex = .closed ∨ fs'.map (·.name) = fs.map (·.name)) :
    Wider (.record fs ex) (.record fs' ex')
  | refined {t t' cs cs'} (h : Wider t t') (hcs : cs' ⊆ cs) : Wider (.refined t cs) (.refined t' cs')
  | ref (n) : Wider (.ref n) (.ref n)

end Schema

/-! ## Edits one after the other -/

namespace Field

variable {R : Schema → Schema → Prop} {fs before after : List (Field Schema)} {f : Field Schema}
  {names : List String}

/-- A field may be replaced by one of the same name with a type that is as well related. -/
theorem Extends.replace (h : Extends R fs (before ++ f :: after) names) (f' : Field Schema)
    (hname : f'.name = f.name) (hrequired : f'.required = true → f.required = true)
    (htype : ∀ u, R u f.type → R u f'.type) : Extends R fs (before ++ f' :: after) names := by
  induction before generalizing fs with
  | nil =>
    cases h with
    | kept hn hr ht h => exact .kept (hname.trans hn) (fun h' => hr (hrequired h')) (htype _ ht) h
    | added hn ho h =>
      refine .added (hname ▸ hn) ?_ h
      by_contra hne
      have := hrequired (by simpa using hne)
      simp [ho] at this
  | cons g before ih =>
    cases h with
    | kept hn hr ht h => exact .kept hn hr ht (ih h)
    | added hn ho h => exact .added hn ho (ih h)

/-- An optional field with a new name may be put anywhere. -/
theorem Extends.insert (h : Extends R fs (before ++ after) names) (hname : f.name ∉ names)
    (hoptional : f.required = false) : Extends R fs (before ++ f :: after) names := by
  induction before generalizing fs with
  | nil => exact .added hname hoptional h
  | cons g before ih =>
    cases h with
    | kept hn hr ht h => exact .kept hn hr ht (ih h)
    | added hn ho h => exact .added hn ho (ih h)

end Field

namespace Schema

variable {t t' t'' : Schema}

/-- An edit at the root of the wider type. -/
theorem Wider.relaxes (h : Wider t t') (hedit : Relaxes t' t'') : Wider t t'' := by
  cases hedit with
  | optional before after k u ex =>
    cases h with
    | record hf hx hnames =>
      have hf' := hf.replace ⟨k, u, false⟩ rfl (by simp) fun _ h => h
      exact .record hf' hx (by simpa using hnames)
  | ignore fs =>
    cases h with
    | record hf hx hnames =>
      cases hx with
      | alike hx =>
        cases hx
        exact .record hf .ignore hnames
  | add before after k u hk =>
    cases h with
    | record hf hx hnames =>
      cases hx with
      | alike hx =>
        cases hx
        have hnew : k ∉ _ := fun hmem => hk (hf.names_subset hmem)
        exact .record (hf.insert (f := ⟨k, u, false⟩) hnew rfl) (.alike .closed) (Or.inl rfl)
  | wrap t => exact .wrapped h
  | drop u before c after =>
    cases h with
    | refined h hcs =>
      refine .refined h fun d hd => hcs ?_
      rcases List.mem_append.1 hd with hd | hd
      · exact List.mem_append_left _ hd
      · exact List.mem_append_right _ (List.mem_cons_of_mem _ hd)
  | append ms more =>
    cases h with
    | literal ms' more' =>
      rw [List.append_assoc]
      exact .literal ms' (more' ++ more)

/-- **One more edit**, at any place of the wider type. Inside a new field it changes nothing. -/
theorem Wider.edit (h : Wider t t') (hedit : Somewhere Relaxes t' t'') : Wider t t'' := by
  induction hedit generalizing t with
  | here hedit => exact h.relaxes hedit
  | nullable _ ih =>
    cases h with
    | nullable h => exact .nullable (ih h)
    | wrapped h => exact .wrapped (ih h)
  | branch before after _ ih => cases h
  | element _ ih =>
    cases h with
    | array h => exact .array (ih h)
  | @field before after k required ex u u' _ ih =>
    cases h with
    | record hf hx hnames =>
      have hf' := hf.replace ⟨k, u', required⟩ rfl (fun h => h) fun _ h => ih h
      exact .record hf' hx (by simpa using hnames)
  | extras fs _ ih =>
    cases h with
    | record hf hx hnames =>
      cases hx with
      | alike hx =>
        cases hx with
        | typed h => exact .record hf (.alike (.typed (ih h))) hnames
  | base cs _ ih =>
    cases h with
    | refined h hcs => exact .refined (ih h) hcs

/-- Edits of a type that is wider than itself, so has no union in it, make it wider. -/
theorem Relaxed.wider (h : Relaxed t t') (ht : Wider t t) : Wider t t' := by
  induction h with
  | refl => exact ht
  | tail _ hedit ih => exact ih.edit hedit

/-- A type in reach of a scope is wider than itself, when no type in reach is a union. -/
theorem wider_refl {s : Scope} (hunion : ∀ h t, s.Reaches h t → ∀ ts, t ≠ .union ts)
    {h : Scope} (ht : s.Reaches h t) : Wider t t := by
  induction t using ind with
  | _ t part =>
    have part : ∀ u ∈ t.parts, Wider u u := fun u hu => part u hu (ht.part hu)
    cases t with
    | primitive k => exact .primitive k
    | literal ms => simpa using Wider.literal ms []
    | nullable t => exact .nullable (part t (by simp [parts]))
    | array t => exact .array (part t (by simp [parts]))
    | refined t cs => exact .refined (part t (by simp [parts])) (List.Subset.refl cs)
    | ref n => exact .ref n
    | union ts => exact absurd rfl (hunion h _ ht ts)
    | record fs ex =>
      have hfields : List.Forall₂ (Field.Alike Wider) fs fs :=
        List.forall₂_same.2 fun f hf => ⟨rfl, rfl, part f.type (field_mem_parts hf)⟩
      have hextras : ex.Alike Wider ex := Extras.alike_refl fun u hu =>
        part u (hu ▸ extras_mem_parts)
      exact .record (Field.extends_of_alike hfields _) (.alike hextras) (Or.inr rfl)

end Schema

/-! ## Walks of wider types -/

namespace Validate

variable {e₁ e₂ : String → Value → Except Failure Value}

/-- A closed record that is accepted has no other keys. -/
theorem mem_names_of_closed {fs : List (Field Schema)} {m os : List (String × Value)}
    (h : walkExtras e₁ (undeclared fs m) .closed = .ok os) {k : String}
    (hk : k ∈ Entries.keys m) : k ∈ fs.map (·.name) := by
  obtain ⟨en, hen, rfl⟩ := List.mem_map.1 hk
  by_contra hnot
  have hmem : en ∈ undeclared fs m := mem_undeclared.2 ⟨hen, hnot⟩
  cases hnil : undeclared fs m with
  | nil => simp [hnil] at hmem
  | cons d r => simp [hnil] at h

/-- The other keys of a record with wider fields are treated as before. -/
theorem walkExtras_wider {fs fs' : List (Field Schema)} {ex ex' : Extras Schema}
    {m os : List (String × Value)} (hsub : fs.map (·.name) ⊆ fs'.map (·.name))
    (hx : ex.Eases Schema.Wider ex')
    (hnames : ex = .closed ∨ fs'.map (·.name) = fs.map (·.name))
    (extra : ∀ u u' w o, ex' = .typed u' → Schema.Wider u u' → walk e₁ u w = .ok o →
      walk e₂ u' w = .ok o)
    (hos : walkExtras e₁ (undeclared fs m) ex = .ok os) :
    walkExtras e₂ (undeclared fs' m) ex' = .ok os := by
  cases hx with
  | ignore =>
    rw [(walkExtras_eq_ok hos).1 (by simp)]
    rfl
  | alike hx =>
    cases hx with
    | ignored => exact hos
    | closed =>
      have hnil : undeclared fs' m = [] := by
        refine List.eq_nil_iff_forall_not_mem.2 fun en hen => ?_
        obtain ⟨hmem, hnot⟩ := mem_undeclared.1 hen
        exact hnot (hsub (mem_names_of_closed hos (Entries.mem_keys_of_mem hmem)))
      rw [hnil, (walkExtras_eq_ok hos).1 (by simp)]
      rfl
    | typed h =>
      have hsame : undeclared fs' m = undeclared fs m := by
        rw [undeclared_eq, undeclared_eq, hnames.resolve_left (by simp)]
      rw [hsame, walkExtras_typed, entries_eq_ok]
      rw [walkExtras_typed, entries_eq_ok] at hos
      exact hos.imp fun en o hen => ⟨hen.1, extra _ _ _ _ rfl h hen.2⟩

/-- **A wider type gives the same outputs.** The induction is on the wider type, which has a part where
the other type is wrapped. -/
theorem walk_wider (name : ∀ n v o, e₁ n v = .ok o → e₂ n v = .ok o)
    (he : ∀ n v o, e₁ n v = .ok o → Value.From v o) (t' : Schema) :
    ∀ t, Schema.Wider t t' → ∀ v o, walk e₁ t v = .ok o → walk e₂ t' v = .ok o := by
  induction t' using Schema.ind with
  | _ t' part =>
    intro t h v o ho
    cases h with
    | primitive k => exact ho
    | ref n => exact name n v o ho
    | literal ms more =>
      rw [walk_literal_ok] at ho ⊢
      rw [List.findSome?_append, ho, Option.some_or]
    | nullable h =>
      refine walk_nullable_ok.2 ((walk_nullable_ok.1 ho).imp_right fun hw => ⟨hw.1, ?_⟩)
      exact part _ (by simp [Schema.parts]) _ h v o hw.2
    | wrapped h =>
      cases hv : v.isNull with
      | false =>
        exact walk_nullable_ok.2 (Or.inr ⟨hv, part _ (by simp [Schema.parts]) _ h v o ho⟩)
      | true =>
        -- nothing but null is made of null
        have hnull : v = .null := by
          revert hv
          cases v <;> simp [Value.isNull]
        exact walk_nullable_ok.2 (Or.inl ⟨hnull, (from_of_walk he t v o ho).kept.null.2 hnull⟩)
    | array h =>
      obtain ⟨xs, os, rfl, rfl, hall⟩ := walk_array_ok.1 ho
      refine walk_array_ok.2 ⟨xs, os, rfl, rfl, hall.imp fun u p hup => ?_⟩
      exact part _ (by simp [Schema.parts]) _ h u p hup
    | refined h hcs =>
      obtain ⟨ho, hall⟩ := walk_refined_ok.1 ho
      have ho' := part _ (by simp [Schema.parts]) _ h v o ho
      exact walk_refined_ok.2 ⟨ho', fun c hc => hall c (hcs hc)⟩
    | @record fs fs' ex ex' hf hx hnames =>
      obtain ⟨m, declared, others, rfl, hd, hothers, rfl⟩ := walk_record_ok.1 ho
      -- a field that was added is not in the value: its name was refused, or there is none
      have habsent : ∀ f ∈ fs', f.name ∉ fs.map (·.name) → f.name ∉ Entries.keys m := by
        intro f hf' hnew hk
        rcases hnames with rfl | hnames
        · exact hnew (mem_names_of_closed hothers hk)
        · exact hnew (hnames ▸ List.mem_map_of_mem hf')
      refine walk_record_ok.2 ⟨m, declared, others, rfl, ?_, ?_, rfl⟩
      · exact walkFields_extends hf
          (fun f hf' u w p hu => part f.type (Schema.field_mem_parts hf') u hu w p) habsent hd
      · refine walkExtras_wider hf.names_subset hx hnames ?_ hothers
        rintro u u' w p rfl hu
        exact part u' Schema.extras_mem_parts u hu w p

/-- **Relaxing is backward compatible.** Let no type in reach of a built scope be a union, and let
another builder in the same place bind the same names to relaxed types. If it is built, it has a
validator for every name that has one, and every value that was accepted is accepted, with the same
output. -/
theorem relax_preserves {b b' : Builder} {s s' : Scope} (hb : b.build = .ok s)
    (hunion : ∀ h t, s.Reaches h t → ∀ ts, t ≠ .union ts) (h : b.Retypes Schema.Relaxed b')
    (hb' : b'.build = .ok s') {k : String} {w : Validator} (hw : s.compile k = .ok w) :
    ∃ w', s'.compile k = .ok w' ∧ ∀ v o, w.validate v = .ok o → w'.validate v = .ok o := by
  obtain ⟨rfl, -, -⟩ := Scope.build_ok hb
  obtain ⟨rfl, -, -⟩ := Scope.build_ok hb'
  have hwider : b.scope.Rebinds Schema.Wider b'.scope := by
    refine h.rebinds.mono fun {n u u'} hn hR => ?_
    have hr := Scope.resolve_of_find? hn
    have hreach : b.scope.Reaches b.scope u := .target (.name (by simp [hr])) hr
    exact hR.wider (Schema.wider_refl hunion hreach)
  rcases h.rebinds.compile k with ⟨x, x', hx, -⟩ | ⟨hk, hk'⟩
  · cases hw.symm.trans hx
  · obtain rfl := Except.ok.inj (hk.symm.trans hw)
    refine ⟨_, hk', fun v => ?_⟩
    refine validateIn_rebinds (Q := fun x y => ∀ o, x = .ok o → y = .ok o) hwider h.size
      (fun _ _ ho => ho) ?_ k v
    intro fuel ih u u' hu v
    exact walk_wider ih (from_of_follow fuel _) u' u hu v

end Validate

/-! ## An example: plants of a nursery, and of a garden that asks for less -/

namespace Builder

/-- A plant: its sort, its height, other fields and its shoots. -/
def plant (height : Schema) (required : Bool) (others : List (Field Schema)) (shoot : Schema)
    (ex : Extras Schema) : Schema :=
  .record ([⟨"sort", .ref "Sort", true⟩, ⟨"height", height, required⟩] ++ others ++
    [⟨"shoots", .array shoot, false⟩]) ex

/-- Positive whole numbers. -/
def positive : Schema := .refined (.primitive .int) [⟨none, .compare .gt (.int 0)⟩]

/-- A note, which no plant of the nursery has. -/
def note : Field Schema := ⟨"note", .union [.primitive .string, .primitive .bool], false⟩

/-- The plants of a nursery. -/
def nursery : Builder where
  name := "nursery"
  parent := none
  bindings := [("Sort", .literal [.str "oak", .str "elm"]),
    ("Plant", plant positive true [] (.ref "Plant") .closed)]

/-- The plants of a garden. -/
def garden : Builder where
  name := "garden"
  parent := none
  bindings := [("Sort", .literal [.str "oak", .str "elm", .str "ash"]),
    ("Plant", plant (.refined (.primitive .int) []) false [note] (.nullable (.ref "Plant")) .ignored)]

theorem nursery_retypes_garden : nursery.Retypes Schema.Relaxed garden := by
  have happend : Schema.Somewhere Schema.Relaxes (.literal [.str "oak", .str "elm"])
      (.literal [.str "oak", .str "elm", .str "ash"]) := .here (.append _ [.str "ash"])
  -- the plant, edit by edit
  have hoptional : Schema.Somewhere Schema.Relaxes (plant positive true [] (.ref "Plant") .closed)
      (plant positive false [] (.ref "Plant") .closed) := .here (.optional [_] [_] _ _ _)
  have hdrop : Schema.Somewhere Schema.Relaxes (plant positive false [] (.ref "Plant") .closed)
      (plant (.refined (.primitive .int) []) false [] (.ref "Plant") .closed) :=
    .field [_] [_] _ _ _ (.here (.drop _ [] _ []))
  have hadd : Schema.Somewhere Schema.Relaxes
      (plant (.refined (.primitive .int) []) false [] (.ref "Plant") .closed)
      (plant (.refined (.primitive .int) []) false [note] (.ref "Plant") .closed) :=
    .here (.add [_, _] [_] _ _ (by decide))
  have hwrap : Schema.Somewhere Schema.Relaxes
      (plant (.refined (.primitive .int) []) false [note] (.ref "Plant") .closed)
      (plant (.refined (.primitive .int) []) false [note] (.nullable (.ref "Plant")) .closed) :=
    .field [_, _, _] [] _ _ _ (.element (.here (.wrap _)))
  have hignore : Schema.Somewhere Schema.Relaxes
      (plant (.refined (.primitive .int) []) false [note] (.nullable (.ref "Plant")) .closed)
      (plant (.refined (.primitive .int) []) false [note] (.nullable (.ref "Plant")) .ignored) :=
    .here (.ignore _)
  have hplant := ((((Relation.ReflTransGen.single hoptional).tail hdrop).tail hadd).tail hwrap).tail
    hignore
  exact ⟨rfl, .cons ⟨rfl, .single happend⟩ (.cons ⟨rfl, hplant⟩ .nil)⟩

/-- The types in reach of the nursery. -/
def nurseryTypes : List Schema :=
  [.ref "Sort", .ref "Plant", .literal [.str "oak", .str "elm"],
    plant positive true [] (.ref "Plant") .closed, positive, .primitive .int, .array (.ref "Plant")]

theorem nursery_reaches {h : Scope} {t : Schema} (ht : nursery.scope.Reaches h t) :
    t ∈ nurseryTypes := by
  refine ht.mem rfl ?_ ?_
  · simp [nurseryTypes, plant, positive, Schema.parts]
  · simp [nurseryTypes, nursery, scope]

end Builder

namespace Validate

/-- A plant with a shoot, whose heights are written as texts. -/
theorem relax_preserves_garden :
    Builder.nursery.build = .ok Builder.nursery.scope ∧
    (∀ h t, Builder.nursery.scope.Reaches h t → ∀ ts, t ≠ .union ts) ∧
    Builder.nursery.Retypes Schema.Relaxed Builder.garden ∧
    validateIn Builder.nursery.scope (.ref "Plant")
        (.record [("height", .str "7"), ("sort", .str "elm"), ("shoots", .list [.record
          [("sort", .str "oak"), ("height", .int 1)]])]) =
      .ok (.record [("sort", .str "elm"), ("height", .int 7), ("shoots", .list [.record
          [("sort", .str "oak"), ("height", .int 1)]])]) ∧
    validateIn Builder.garden.scope (.ref "Plant")
        (.record [("height", .str "7"), ("sort", .str "elm"), ("shoots", .list [.record
          [("sort", .str "oak"), ("height", .int 1)]])]) =
      .ok (.record [("sort", .str "elm"), ("height", .int 7), ("shoots", .list [.record
          [("sort", .str "oak"), ("height", .int 1)]])]) := by
  have hbuilt : Builder.nursery.build = .ok Builder.nursery.scope := rfl
  have hunion : ∀ h t, Builder.nursery.scope.Reaches h t → ∀ ts, t ≠ .union ts := by
    intro h t ht ts hts
    have hmem := Builder.nursery_reaches ht
    simp [hts, Builder.nurseryTypes, Builder.plant, Builder.positive] at hmem
  obtain ⟨w, hw, haccepts⟩ := relax_preserves hbuilt hunion Builder.nursery_retypes_garden
    (rfl : Builder.garden.build = .ok Builder.garden.scope) (k := "Plant") rfl
  have hplant : Builder.garden.scope.compile "Plant" = .ok ⟨Builder.garden.scope, "Plant"⟩ := rfl
  obtain rfl := Except.ok.inj (hw.symm.trans hplant)
  exact ⟨hbuilt, hunion, Builder.nursery_retypes_garden, rfl, haccepts _ _ rfl⟩

end Validate

end Conform
