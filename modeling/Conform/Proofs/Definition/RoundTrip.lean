import Conform.Definition.Decode
import Conform.Proofs.Definition.Whole
import Conform.Proofs.Json
import Conform.Proofs.Read.Shape

/-!
# Definitions survive their documents

Definitions are written as documents and read from documents. A term says in front which variant it is,
and the parts stand beside the name in the order of their declaration; what a definition quotes is never
looked into, so it may look like a type itself. Reading takes a bound on the depth, which the depth of
the document meets at every level.

What a definition quotes is settled when it is read: of members of one name the last counts. So only
terms in which no document has a name twice come back as they were, and those are all that is read.

* `PredicateSyntax.Settled`, `TypeSyntax.Settled`, `Definitions.Settled`: no name twice;
* `Definition.predicates_encode`, `Definition.types_encode`: settled terms are read from their
  documents;
* `Definition.settled_of_predicates`, `Definition.settled_of_types`: what is read is settled;
* `Definitions.document_reads_back`: the main statement.
-/

namespace Conform

open Entries (keys)
open Read

/-! ## Depth -/

namespace Json

variable {xs : List Json} {m : List (String × Json)} {n : Nat}

theorem depthItems_le : depthItems xs ≤ n ↔ ∀ x ∈ xs, x.depth ≤ n := by
  induction xs with
  | nil => simp [depthItems]
  | cons x xs ih => rw [depthItems, Nat.max_le, ih, List.forall_mem_cons]

theorem depthMembers_le : depthMembers m ≤ n ↔ ∀ e ∈ m, e.2.depth ≤ n := by
  induction m with
  | nil => simp [depthMembers]
  | cons e m ih => rw [depthMembers, Nat.max_le, ih, List.forall_mem_cons]

theorem depth_arr_le (h : (arr xs).depth ≤ n) : ∀ x ∈ xs, x.depth ≤ n := by
  rw [depth] at h
  exact depthItems_le.1 (by omega)

theorem depth_obj_le (h : (obj m).depth ≤ n) : ∃ k, n = k + 1 ∧ ∀ e ∈ m, e.2.depth ≤ k := by
  rw [depth] at h
  exact ⟨n - 1, by omega, depthMembers_le.1 (by omega)⟩

end Json

/-! ## Terms that can be written -/

/-- No document in the check has a name twice. -/
inductive PredicateSyntax.Settled : PredicateSyntax → Prop
  | compare (op) {j} (h : j.Distinct) : Settled (.compare op j)
  | even : Settled .even
  | odd : Settled .odd
  | minLength (n) : Settled (.minLength n)
  | maxLength (n) : Settled (.maxLength n)
  | matching (p) : Settled (.matching p)
  | all {ps} (h : ∀ p ∈ ps, Settled p) : Settled (.all ps)
  | any {ps} (h : ∀ p ∈ ps, Settled p) : Settled (.any ps)
  | not {p} (h : Settled p) : Settled (.not p)

/-- No document in the type has a name twice. -/
inductive TypeSyntax.Settled : TypeSyntax → Prop
  | typeRef (n) : Settled (.typeRef n)
  | typeSchema {ps es} (hp : ∀ p ∈ ps, Settled p.type) (hx : ∀ t, es = .typed t → Settled t) :
    Settled (.typeSchema ps es)
  | subtypeConstraint {b cs} (hb : Settled b) (hc : ∀ c ∈ cs, c.condition.Settled) :
    Settled (.subtypeConstraint b cs)
  | arrayType {t} (h : Settled t) : Settled (.arrayType t)
  | unionType {ts} (h : ∀ t ∈ ts, Settled t) : Settled (.unionType ts)
  | nullable {t} (h : Settled t) : Settled (.nullable t)
  | literal {js} (h : ∀ j ∈ js, j.Distinct) : Settled (.literal js)

/-- No document in the definitions has a name twice: literals and bounds are settled documents. -/
def Definitions.Settled (d : Definitions) : Prop := ∀ x ∈ d.types, x.type.Settled

namespace Definition

/-! ## One part -/

section OneField

variable {α β : Type} {expected name : String} {part : Json → Except Fault α} {make : α → β}

theorem oneField_member {j : Json} {a : α} (h : part j = .ok a) :
    (oneField expected name part make).ofBody (.members [(name, j)]) = .ok (make a) := by
  have htakes : (oneField expected name part make).Takes none [(name, j)] (some a) :=
    .cons (Outcome.map_eq_ok.2 ⟨a, h, rfl⟩) .nil
  exact htakes.ofMembers rfl (List.nodup_singleton name) rfl

theorem exists_of_oneField {Q : α → Prop} (hpart : ∀ {j a}, part j = .ok a → Q a) {b : Body} {c : β}
    (h : (oneField expected name part make).ofBody b = .ok c) : ∃ a, Q a ∧ make a = c := by
  have hkeeps : (oneField expected name part make).Keeps fun st => ∀ a, st = some a → Q a := by
    constructor
    · intro a ha
      cases ha
    · intro k st j st' _ hstep a ha
      obtain ⟨a', ha', rfl⟩ := Outcome.map_eq_ok.1 hstep
      exact Option.some.inj ha ▸ hpart ha'
  obtain ⟨absent, st, hst, hfinish⟩ := hkeeps.ofBody h
  cases st with
  | none => cases hfinish
  | some a => exact ⟨a, hst a rfl, Except.ok.inj hfinish⟩

theorem exists_make {b : Body} {c : β} (h : (oneField expected name part make).ofBody b = .ok c) :
    ∃ a, make a = c := by
  obtain ⟨a, -, ha⟩ := exists_of_oneField (Q := fun _ => True) (fun _ => trivial) h
  exact ⟨a, ha⟩

end OneField

/-- A term that names its variant in front is read with any bound that is not below the depth, and the
bound for what stands beside the name is not below its depth. -/
theorem exists_tagged {α : Type} (vs : Nat → Variants α) {tag t : String} {m : List (String × Json)}
    {n : Nat} (htag : ∀ k, (vs (k + 1)).tag = tag) (ht : ∀ k, t ∈ (vs (k + 1)).known)
    (hm : tag ∉ keys m) (hn : (Json.obj ((tag, .str t) :: m)).depth ≤ n) :
    ∃ k, (∀ e ∈ m, e.2.depth ≤ k) ∧ (vs n).ofJson (.obj ((tag, .str t) :: m)) =
      (vs (k + 1)).decode t (.members m) := by
  obtain ⟨k, rfl, hk⟩ := Json.depth_obj_le hn
  refine ⟨k, fun e he => hk e (List.mem_cons_of_mem _ he), ?_⟩
  rw [← htag k] at hm ⊢
  exact Variants.ofJson_tagged (ht k) hm

theorem eq_of_noParts {α : Type} {a c : α} {b : Body} (h : noParts a b = .ok c) : c = a := by
  cases b with
  | members m => exact (Except.ok.inj h).symm
  | elements xs =>
    cases xs with
    | nil => exact (Except.ok.inj h).symm
    | cons x xs => cases h

/-! ## Checks -/

/-- A length that fits is read as it is, also above the range with a sign. -/
theorem asLength_num {n : UInt64} {N : Number} (h : Number.ofInt? n.toNat = some N) :
    asLength (.num N) = .ok n := by
  rw [Number.ofInt?] at h
  split at h
  · rename_i k hk
    obtain rfl := Option.some.inj h
    have hn : k.toInt = n.toNat := (whole?_eq_some_iff _ k).1 hk
    rw [asLength, hn, if_pos (Int.natCast_nonneg _), Int.toNat_natCast, UInt64.ofNat_toNat]
  · split at h
    · obtain rfl := Option.some.inj h
      rw [asLength, Int.toNat_natCast, UInt64.ofNat_toNat]
    · cases h

theorem asLength_ofNat (n : UInt64) : asLength (.ofNat n.toNat) = .ok n := by
  have hlt : n.toNat < 2 ^ 64 := n.toNat_lt
  obtain ⟨N, hN⟩ := Number.exists_ofInt? (n := n.toNat) (by omega) (by omega)
  rw [Json.ofNat, hN]
  exact asLength_num hN

theorem comparison?_opName (op : Comparison) : comparison? (PredicateSyntax.opName op) = some op := by
  cases op <;> rfl

theorem opName_mem (op : Comparison) : PredicateSyntax.opName op ∈ predicateNames := by
  cases op <;> decide

theorem encodeList_predicates (ps : List PredicateSyntax) :
    PredicateSyntax.encodeList ps = ps.map PredicateSyntax.encode := by
  induction ps with
  | nil => rfl
  | cons p ps ih => rw [PredicateSyntax.encodeList, ih, List.map_cons]

theorem predicates_tagged {t : String} {m : List (String × Json)} {n : Nat} (ht : t ∈ predicateNames)
    (hm : "op" ∉ keys m) (hn : (Json.obj (("op", .str t) :: m)).depth ≤ n) :
    ∃ k, (∀ e ∈ m, e.2.depth ≤ k) ∧ (predicates n).ofJson (.obj (("op", .str t) :: m)) =
      (predicates (k + 1)).decode t (.members m) :=
  exists_tagged predicates (fun _ => rfl) (fun _ => ht) hm hn

/-- Terms are read from the list of their documents when each of them is. -/
theorem asList_documents {α : Type} {item : Json → Except Fault α} {doc : α → Json} {as : List α}
    {n : Nat} (hn : (Json.arr (as.map doc)).depth ≤ n)
    (h : ∀ a ∈ as, (doc a).depth ≤ n → item (doc a) = .ok a) :
    asList item (.arr (as.map doc)) = .ok as :=
  asList_map fun a ha => h a ha (Json.depth_arr_le hn _ (List.mem_map_of_mem ha))

theorem asList_predicates {ps : List PredicateSyntax} {n : Nat}
    (hn : (Json.arr (PredicateSyntax.encodeList ps)).depth ≤ n)
    (ih : ∀ p ∈ ps, ∀ {n}, p.encode.depth ≤ n → (predicates n).ofJson p.encode = .ok p) :
    asList (predicates n).ofJson (.arr (PredicateSyntax.encodeList ps)) = .ok ps := by
  rw [encodeList_predicates] at hn ⊢
  exact asList_documents hn fun p hp => ih p hp

/-- **A check is read from its document**, with any bound that is not below the depth. -/
theorem predicates_encode {p : PredicateSyntax} (hp : p.Settled) :
    ∀ {n}, p.encode.depth ≤ n → (predicates n).ofJson p.encode = .ok p := by
  induction hp with
  | @compare op j hj =>
    intro n hn
    obtain ⟨k, -, htag⟩ := predicates_tagged (opName_mem op) (by simp [keys]) hn
    have hdecode : (predicates (k + 1)).decode (PredicateSyntax.opName op) (.members [("value", j)]) =
        .ok (.compare op j.settle) := by
      simp only [predicates, comparison?_opName]
      exact oneField_member rfl
    rw [PredicateSyntax.encode, htag, hdecode, Json.settle_of_distinct hj]
  | even =>
    intro n hn
    obtain ⟨k, -, htag⟩ := predicates_tagged (by decide) (by simp [keys]) hn
    exact htag
  | odd =>
    intro n hn
    obtain ⟨k, -, htag⟩ := predicates_tagged (by decide) (by simp [keys]) hn
    exact htag
  | minLength l =>
    intro n hn
    obtain ⟨k, -, htag⟩ := predicates_tagged (by decide) (by simp [keys]) hn
    exact htag.trans (oneField_member (asLength_ofNat l))
  | maxLength l =>
    intro n hn
    obtain ⟨k, -, htag⟩ := predicates_tagged (by decide) (by simp [keys]) hn
    exact htag.trans (oneField_member (asLength_ofNat l))
  | matching p =>
    intro n hn
    obtain ⟨k, -, htag⟩ := predicates_tagged (by decide) (by simp [keys]) hn
    exact htag.trans (oneField_member rfl)
  | @all ps _ ih =>
    intro n hn
    obtain ⟨k, hk, htag⟩ := predicates_tagged (by decide) (by simp [keys]) hn
    exact htag.trans (oneField_member (asList_predicates (hk _ List.mem_cons_self) ih))
  | @any ps _ ih =>
    intro n hn
    obtain ⟨k, hk, htag⟩ := predicates_tagged (by decide) (by simp [keys]) hn
    exact htag.trans (oneField_member (asList_predicates (hk _ List.mem_cons_self) ih))
  | not _ ih =>
    intro n hn
    obtain ⟨k, hk, htag⟩ := predicates_tagged (by decide) (by simp [keys]) hn
    exact htag.trans (oneField_member (ih (hk _ List.mem_cons_self)))

theorem constraint_encode {c : ConstraintSyntax} (hc : c.condition.Settled) :
    constraintShape.ofJson c.encode = .ok c := by
  obtain ⟨j, hdoc, hlabel⟩ : ∃ j, c.encode = .obj [("label", j), ("condition", c.condition.encode)] ∧
      asOptionalText j = .ok c.label := by
    obtain ⟨_ | l, p⟩ := c
    · exact ⟨_, rfl, rfl⟩
    · exact ⟨_, rfl, rfl⟩
  have hp : predicate c.condition.encode = .ok c.condition := predicates_encode hc (Nat.le_refl _)
  have htakes : constraintShape.Takes (none, none) [("label", j), ("condition", c.condition.encode)]
      (some c.label, some c.condition) :=
    .cons (Outcome.map_eq_ok.2 ⟨_, hlabel, rfl⟩) (.cons (Outcome.map_eq_ok.2 ⟨_, hp, rfl⟩) .nil)
  rw [hdoc]
  exact htakes.ofMembers rfl (by decide) rfl

/-! ## Types -/

section Parts

variable {type : Json → Except Fault TypeSyntax}

/-- The document of a field. -/
def propertyDocument (p : Property TypeSyntax) : Json :=
  .obj [("key", .str p.key), ("type", p.type.encode), ("optional", .bool p.optional)]

theorem property_encode {p : Property TypeSyntax} (hp : type p.type.encode = .ok p.type) :
    (propertyShape type).ofJson (propertyDocument p) = .ok p := by
  have htakes : (propertyShape type).Takes (none, none, none)
      [("key", .str p.key), ("type", p.type.encode), ("optional", .bool p.optional)]
      (some p.key, some p.type, some p.optional) :=
    .cons rfl (.cons (Outcome.map_eq_ok.2 ⟨p.type, hp, rfl⟩) (.cons rfl .nil))
  exact htakes.ofMembers rfl (by simp [propertyShape]) rfl

/-- No type is taken for a word that says what happens to other keys. -/
theorem extrasMode?_encode (t : TypeSyntax) : extrasMode? t.encode = none := by
  cases t <;> rfl

theorem extras_encode {es : Extras TypeSyntax} (h : ∀ t, es = .typed t → type t.encode = .ok t) :
    extras type (TypeSyntax.encodeExtras es) = .ok es := by
  cases es with
  | closed => rfl
  | ignored => rfl
  | typed t => rw [TypeSyntax.encodeExtras, extras, extrasMode?_encode, h t rfl]

theorem schema_members {j j' : Json} {ps : List (Property TypeSyntax)} {es : Extras TypeSyntax}
    (hps : asList (propertyShape type).ofJson j = .ok ps) (hes : extras type j' = .ok es) :
    (schemaShape type).ofBody (.members [("properties", j), ("extras", j')]) =
      .ok (.typeSchema ps es) := by
  have htakes : (schemaShape type).Takes (none, none) [("properties", j), ("extras", j')]
      (some ps, some es) :=
    .cons (Outcome.map_eq_ok.2 ⟨ps, hps, rfl⟩) (.cons (Outcome.map_eq_ok.2 ⟨es, hes, rfl⟩) .nil)
  exact htakes.ofMembers rfl (by simp [schemaShape]) rfl

theorem subtype_members {j j' : Json} {b : TypeSyntax} {cs : List ConstraintSyntax}
    (hb : type j = .ok b) (hcs : asList constraintShape.ofJson j' = .ok cs) :
    (subtypeShape type).ofBody (.members [("base", j), ("constraints", j')]) =
      .ok (.subtypeConstraint b cs) := by
  have htakes : (subtypeShape type).Takes (none, none) [("base", j), ("constraints", j')]
      (some b, some cs) :=
    .cons (Outcome.map_eq_ok.2 ⟨b, hb, rfl⟩) (.cons (Outcome.map_eq_ok.2 ⟨cs, hcs, rfl⟩) .nil)
  exact htakes.ofMembers rfl (by simp [subtypeShape]) rfl

end Parts

theorem encodeList_types (ts : List TypeSyntax) :
    TypeSyntax.encodeList ts = ts.map TypeSyntax.encode := by
  induction ts with
  | nil => rfl
  | cons t ts ih => rw [TypeSyntax.encodeList, ih, List.map_cons]

theorem encodeProperties_eq (ps : List (Property TypeSyntax)) :
    TypeSyntax.encodeProperties ps = ps.map propertyDocument := by
  induction ps with
  | nil => rfl
  | cons p ps ih => rw [TypeSyntax.encodeProperties, ih, List.map_cons, propertyDocument]

theorem types_tagged {t : String} {m : List (String × Json)} {n : Nat} (ht : t ∈ typeNames)
    (hm : "kind" ∉ keys m) (hn : (Json.obj (("kind", .str t) :: m)).depth ≤ n) :
    ∃ k, (∀ e ∈ m, e.2.depth ≤ k) ∧ (types n).ofJson (.obj (("kind", .str t) :: m)) =
      (types (k + 1)).decode t (.members m) :=
  exists_tagged types (fun _ => rfl) (fun _ => ht) hm hn

/-- **A type is read from its document**, with any bound that is not below the depth. -/
theorem types_encode {t : TypeSyntax} (ht : t.Settled) :
    ∀ {n}, t.encode.depth ≤ n → (types n).ofJson t.encode = .ok t := by
  induction ht with
  | typeRef name =>
    intro n hn
    obtain ⟨k, -, htag⟩ := types_tagged (by decide) (by simp [keys]) hn
    exact htag.trans (oneField_member rfl)
  | @typeSchema ps es _ _ ihp ihx =>
    intro n hn
    obtain ⟨k, hk, htag⟩ := types_tagged (by decide) (by simp [keys]) hn
    have hdeep : (Json.arr (ps.map propertyDocument)).depth ≤ k := by
      rw [← encodeProperties_eq]
      exact hk _ List.mem_cons_self
    have hps : asList (propertyShape (types k).ofJson).ofJson
        (.arr (TypeSyntax.encodeProperties ps)) = .ok ps := by
      rw [encodeProperties_eq]
      refine asList_documents hdeep fun p hp hle => property_encode (ihp p hp ?_)
      -- the document of a field is one level deeper than that of its type
      obtain ⟨i, hi, hparts⟩ := Json.depth_obj_le hle
      have htype : p.type.encode.depth ≤ i := hparts ("type", p.type.encode) (by simp)
      omega
    have hes : extras (types k).ofJson (TypeSyntax.encodeExtras es) = .ok es := by
      refine extras_encode fun t hes => ihx t hes ?_
      subst hes
      exact hk ("extras", t.encode) (by simp [TypeSyntax.encodeExtras])
    exact htag.trans (schema_members hps hes)
  | @subtypeConstraint b cs _ hc ih =>
    intro n hn
    obtain ⟨k, hk, htag⟩ := types_tagged (by decide) (by simp [keys]) hn
    refine htag.trans (subtype_members (ih (hk _ List.mem_cons_self)) ?_)
    exact asList_map fun c hmem => constraint_encode (hc c hmem)
  | arrayType _ ih =>
    intro n hn
    obtain ⟨k, hk, htag⟩ := types_tagged (by decide) (by simp [keys]) hn
    exact htag.trans (oneField_member (ih (hk _ List.mem_cons_self)))
  | @unionType ts _ ih =>
    intro n hn
    obtain ⟨k, hk, htag⟩ := types_tagged (by decide) (by simp [keys]) hn
    have hlist : asList (types k).ofJson (.arr (TypeSyntax.encodeList ts)) = .ok ts := by
      have hdeep := hk _ List.mem_cons_self
      rw [encodeList_types] at hdeep ⊢
      exact asList_documents hdeep fun t ht => ih t ht
    exact htag.trans (oneField_member hlist)
  | nullable _ ih =>
    intro n hn
    obtain ⟨k, hk, htag⟩ := types_tagged (by decide) (by simp [keys]) hn
    exact htag.trans (oneField_member (ih (hk _ List.mem_cons_self)))
  | @literal js hjs =>
    intro n hn
    obtain ⟨k, -, htag⟩ := types_tagged (by decide) (by simp [keys]) hn
    have hlist : asList .ok (.arr js) = .ok js :=
      Outcome.mapM_eq_ok.2 (List.forall₂_same.2 fun _ _ => rfl)
    have hsettle : js.map Json.settle = js :=
      (List.map_congr_left fun j hj => Json.settle_of_distinct (hjs j hj)).trans (List.map_id js)
    refine htag.trans ((oneField_member hlist).trans ?_)
    rw [hsettle]

theorem typeDefinition_encode {x : TypeDefinition} (hx : x.type.Settled) :
    typeDefinitionShape.ofJson x.encode = .ok x := by
  have htype : (types x.type.encode.depth).ofJson x.type.encode = .ok x.type :=
    types_encode hx (Nat.le_refl _)
  have htakes : typeDefinitionShape.Takes (none, none) [("name", .str x.name), ("type", x.type.encode)]
      (some x.name, some x.type) :=
    .cons rfl (.cons (Outcome.map_eq_ok.2 ⟨_, htype, rfl⟩) .nil)
  exact htakes.ofMembers rfl (by decide) rfl

/-- **Definitions are read from their document.** -/
theorem definitions_encode {d : Definitions} (hd : d.Settled) :
    Definitions.decode d.encode = .ok d := by
  have hlist : asList typeDefinitionShape.ofJson (.arr (d.types.map TypeDefinition.encode)) =
      .ok d.types := asList_map fun x hx => typeDefinition_encode (hd x hx)
  have htakes : definitionsShape.Takes none [("types", .arr (d.types.map TypeDefinition.encode))]
      (some d.types) := .cons (Outcome.map_eq_ok.2 ⟨_, hlist, rfl⟩) .nil
  exact htakes.ofMembers rfl (by decide) rfl

/-! ## What is read is settled -/

/-- Checks that are read are settled. The induction is on the bound, one case for every variant. -/
theorem settled_of_predicates {n : Nat} :
    ∀ {j p}, (predicates n).ofJson j = .ok p → PredicateSyntax.Settled p := by
  induction n with
  | zero =>
    -- with no bound left no variant is read
    intro j p h
    obtain ⟨t, b, h⟩ := Variants.exists_decode h
    cases h
  | succ n ih =>
    intro j p h
    obtain ⟨t, b, h⟩ := Variants.exists_decode h
    simp only [predicates] at h
    split at h
    · obtain ⟨j, rfl⟩ := exists_make h
      exact .compare _ (Json.distinct_settle j)
    split at h
    · obtain rfl := eq_of_noParts h
      exact .even
    split at h
    · obtain rfl := eq_of_noParts h
      exact .odd
    split at h
    · obtain ⟨l, rfl⟩ := exists_make h
      exact .minLength l
    split at h
    · obtain ⟨l, rfl⟩ := exists_make h
      exact .maxLength l
    split at h
    · obtain ⟨s, rfl⟩ := exists_make h
      exact .matching s
    split at h
    · obtain ⟨ps, hps, rfl⟩ := exists_of_oneField (forall_of_asList ih) h
      exact .all hps
    split at h
    · obtain ⟨ps, hps, rfl⟩ := exists_of_oneField (forall_of_asList ih) h
      exact .any hps
    · obtain ⟨p, hp, rfl⟩ := exists_of_oneField ih h
      exact .not hp

theorem settled_of_constraint {j : Json} {c : ConstraintSyntax} (h : constraintShape.ofJson j = .ok c) :
    c.condition.Settled := by
  have hkeeps : constraintShape.Keeps fun st => ∀ p ∈ st.2, PredicateSyntax.Settled p := by
    constructor
    · intro p hp
      cases hp
    · intro k st j st' hst hstep p hp
      simp only [constraintShape] at hstep
      split at hstep
      · obtain ⟨l, -, rfl⟩ := Outcome.map_eq_ok.1 hstep
        exact hst p hp
      · obtain ⟨q, hq, rfl⟩ := Outcome.map_eq_ok.1 hstep
        exact Option.some.inj hp ▸ settled_of_predicates hq
  obtain ⟨absent, ⟨l, _ | p⟩, hst, hfinish⟩ := hkeeps.ofJson h
  · cases hfinish
  · cases Except.ok.inj hfinish
    exact hst p rfl

/-- A word does not stand for a type. -/
theorem extrasMode?_ne_typed (j : Json) (t : TypeSyntax) : extrasMode? j ≠ some (.typed t) := by
  unfold extrasMode?
  split
  · split_ifs <;> simp
  · split_ifs <;> simp
  · simp

section Parts

variable {type : Json → Except Fault TypeSyntax}
  (htype : ∀ {j t}, type j = .ok t → TypeSyntax.Settled t)

include htype

theorem settled_of_property {j : Json} {p : Property TypeSyntax}
    (h : (propertyShape type).ofJson j = .ok p) : p.type.Settled := by
  have hkeeps : (propertyShape type).Keeps fun st => ∀ t ∈ st.2.1, TypeSyntax.Settled t := by
    constructor
    · intro t ht
      cases ht
    · intro k st j st' hst hstep t ht
      simp only [propertyShape] at hstep
      split at hstep
      · obtain ⟨s, -, rfl⟩ := Outcome.map_eq_ok.1 hstep
        exact hst t ht
      split at hstep
      · obtain ⟨u, hu, rfl⟩ := Outcome.map_eq_ok.1 hstep
        exact Option.some.inj ht ▸ htype hu
      · obtain ⟨o, -, rfl⟩ := Outcome.map_eq_ok.1 hstep
        exact hst t ht
  obtain ⟨absent, ⟨_ | k, _ | t, o⟩, hst, hfinish⟩ := hkeeps.ofJson h
  · cases hfinish
  · cases hfinish
  · cases hfinish
  · cases Except.ok.inj hfinish
    exact hst t rfl

theorem settled_of_extras {j : Json} {es : Extras TypeSyntax} (h : extras type j = .ok es) :
    ∀ t, es = .typed t → t.Settled := by
  rintro t rfl
  unfold extras at h
  split at h
  · rename_i e he
    cases Except.ok.inj h
    exact absurd he (extrasMode?_ne_typed j t)
  · split at h
    · rename_i u hu
      cases Except.ok.inj h
      exact htype hu
    · cases h

theorem settled_of_schema {b : Body} {t : TypeSyntax} (h : (schemaShape type).ofBody b = .ok t) :
    t.Settled := by
  have hkeeps : (schemaShape type).Keeps fun st => (∀ p ∈ st.1.getD [], p.type.Settled) ∧
      ∀ t, st.2.getD .closed = .typed t → t.Settled := by
    constructor
    · constructor
      · intro p hp
        cases hp
      · intro t ht
        cases ht
    · intro k st j st' hst hstep
      simp only [schemaShape] at hstep
      split at hstep
      · obtain ⟨ps, hps, rfl⟩ := Outcome.map_eq_ok.1 hstep
        exact ⟨forall_of_asList (settled_of_property htype) hps, hst.2⟩
      · obtain ⟨es, hes, rfl⟩ := Outcome.map_eq_ok.1 hstep
        exact ⟨hst.1, settled_of_extras htype hes⟩
  obtain ⟨absent, st, ⟨hps, hes⟩, hfinish⟩ := hkeeps.ofBody h
  cases Except.ok.inj hfinish
  exact .typeSchema hps hes

theorem settled_of_subtype {b : Body} {t : TypeSyntax} (h : (subtypeShape type).ofBody b = .ok t) :
    t.Settled := by
  have hkeeps : (subtypeShape type).Keeps fun st => (∀ t ∈ st.1, TypeSyntax.Settled t) ∧
      ∀ c ∈ st.2.getD [], c.condition.Settled := by
    constructor
    · constructor
      · intro t ht
        cases ht
      · intro c hc
        cases hc
    · intro k st j st' hst hstep
      simp only [subtypeShape] at hstep
      split at hstep
      · obtain ⟨t, ht, rfl⟩ := Outcome.map_eq_ok.1 hstep
        refine ⟨fun t' ht' => ?_, hst.2⟩
        cases ht'
        exact htype ht
      · obtain ⟨cs, hcs, rfl⟩ := Outcome.map_eq_ok.1 hstep
        exact ⟨hst.1, forall_of_asList settled_of_constraint hcs⟩
  obtain ⟨absent, ⟨_ | t, cs⟩, ⟨ht, hcs⟩, hfinish⟩ := hkeeps.ofBody h
  · cases hfinish
  · cases Except.ok.inj hfinish
    exact .subtypeConstraint (ht t rfl) hcs

end Parts

/-- Types that are read are settled, by the same induction. -/
theorem settled_of_types {n : Nat} : ∀ {j t}, (types n).ofJson j = .ok t → TypeSyntax.Settled t := by
  induction n with
  | zero =>
    intro j t h
    obtain ⟨w, b, h⟩ := Variants.exists_decode h
    cases h
  | succ n ih =>
    intro j t h
    obtain ⟨w, b, h⟩ := Variants.exists_decode h
    simp only [types] at h
    split at h
    · obtain ⟨s, rfl⟩ := exists_make h
      exact .typeRef s
    split at h
    · exact settled_of_schema ih h
    split at h
    · exact settled_of_subtype ih h
    split at h
    · obtain ⟨t, ht, rfl⟩ := exists_of_oneField ih h
      exact .arrayType ht
    split at h
    · obtain ⟨ts, hts, rfl⟩ := exists_of_oneField (forall_of_asList ih) h
      exact .unionType hts
    split at h
    · obtain ⟨t, ht, rfl⟩ := exists_of_oneField ih h
      exact .nullable ht
    · obtain ⟨js, rfl⟩ := exists_make h
      refine .literal fun j hj => ?_
      obtain ⟨i, -, rfl⟩ := List.mem_map.1 hj
      exact Json.distinct_settle i

theorem settled_of_typeDefinition {j : Json} {x : TypeDefinition}
    (h : typeDefinitionShape.ofJson j = .ok x) : x.type.Settled := by
  have hkeeps : typeDefinitionShape.Keeps fun st => ∀ t ∈ st.2, TypeSyntax.Settled t := by
    constructor
    · intro t ht
      cases ht
    · intro k st j st' hst hstep t ht
      simp only [typeDefinitionShape] at hstep
      split at hstep
      · obtain ⟨s, -, rfl⟩ := Outcome.map_eq_ok.1 hstep
        exact hst t ht
      · obtain ⟨u, hu, rfl⟩ := Outcome.map_eq_ok.1 hstep
        cases ht
        exact settled_of_types hu
  obtain ⟨absent, ⟨_ | n, _ | t⟩, hst, hfinish⟩ := hkeeps.ofJson h
  · cases hfinish
  · cases hfinish
  · cases hfinish
  · cases Except.ok.inj hfinish
    exact hst t rfl

/-- **Definitions that are read are settled.** -/
theorem settled_of_decode {j : Json} {d : Definitions} (h : Definitions.decode j = .ok d) :
    d.Settled := by
  have hkeeps : definitionsShape.Keeps fun st => ∀ x ∈ st.getD [], x.type.Settled := by
    constructor
    · intro x hx
      cases hx
    · intro k st j st' _ hstep
      obtain ⟨xs, hxs, rfl⟩ := Outcome.map_eq_ok.1 hstep
      exact forall_of_asList settled_of_typeDefinition hxs
  obtain ⟨absent, st, hst, hfinish⟩ := hkeeps.ofJson h
  cases Except.ok.inj hfinish
  exact hst

end Definition

/-- **Definitions survive their documents.** The document that definitions are written as is read as
these definitions, if and only if no document that they quote has a name twice, as is the case for every
document once it is settled. So it is for all definitions that are read from a document: reading, writing
and reading again gives what was read at first. -/
theorem Definitions.document_reads_back :
    (∀ d : Definitions, Definitions.decode d.encode = .ok d ↔ d.Settled) ∧
    ∀ (j : Json) (d : Definitions), Definitions.decode j = .ok d →
      Definitions.decode d.encode = .ok d := by
  refine ⟨fun d => ⟨Definition.settled_of_decode, Definition.definitions_encode⟩, fun j d h => ?_⟩
  exact Definition.definitions_encode (Definition.settled_of_decode h)

/-- Parcels: documents in literals and bounds that look like types and checks, a record in the extras
of a record, and the greatest length. -/
def Definitions.parcels : Definitions where
  types :=
    [⟨"Parcel", .typeSchema
        [⟨"kind", .literal [.obj [("kind", .str "type_ref"), ("op", .arr [.null])]], true⟩]
        (.typed (.typeSchema [] .ignored))⟩,
      ⟨"Label", .subtypeConstraint (.typeRef "String")
        [⟨some "short", .all [.maxLength 0xFFFFFFFFFFFFFFFF,
          .not (.compare .ne (.obj [("op", .str "even")]))]⟩]⟩]

/-- A document of definitions that are written as lists, with a literal that names a member twice. -/
def Json.stamps : Json :=
  .arr [.arr [.arr [.str "Stamp", .arr [.str "literal",
    .arr [.obj [("op", .null), ("kind", .bool true), ("op", .str "odd")]]]]]]

/-- The parcels are read again; so are the stamps, in which the last of the two members is kept. -/
theorem Definitions.document_reads_back_parcels :
    Definitions.parcels.Settled ∧
    Definitions.decode Definitions.parcels.encode = .ok Definitions.parcels ∧
    ∃ d, Definitions.decode Json.stamps = .ok d ∧
      d = ⟨[⟨"Stamp", .literal [.obj [("op", .str "odd"), ("kind", .bool true)]]⟩]⟩ ∧
      Definitions.decode d.encode = .ok d := by
  have hsettled : Definitions.parcels.Settled := by
    have hnull : Json.null.Distinct := Json.distinct_of_parts rfl
    have hword : ∀ s, (Json.str s).Distinct := fun _ => Json.distinct_of_parts rfl
    have hliteral : Json.Distinct (.obj [("kind", .str "type_ref"), ("op", .arr [.null])]) := by
      simp [Json.distinct_obj, Json.distinct_arr, keys, hnull, hword]
    have hbound : Json.Distinct (.obj [("op", .str "even")]) := by
      simp [Json.distinct_obj, keys, hword]
    refine List.forall_mem_cons.2 ⟨?_, List.forall_mem_singleton.2 ?_⟩
    · refine .typeSchema (List.forall_mem_singleton.2 (.literal ?_)) ?_
      · exact List.forall_mem_singleton.2 hliteral
      rintro _ ⟨⟩
      exact .typeSchema (by simp) (by simp)
    · refine .subtypeConstraint (.typeRef _) (List.forall_mem_singleton.2 (.all ?_))
      refine List.forall_mem_cons.2 ⟨.maxLength _, List.forall_mem_singleton.2 ?_⟩
      exact .not (.compare .ne hbound)
  have hstamps : Definitions.decode Json.stamps =
      .ok ⟨[⟨"Stamp", .literal [.obj [("op", .str "odd"), ("kind", .bool true)]]⟩]⟩ := rfl
  obtain ⟨hback, hagain⟩ := Definitions.document_reads_back
  exact ⟨hsettled, (hback _).2 hsettled, _, hstamps, rfl, hagain _ _ hstamps⟩

end Conform
