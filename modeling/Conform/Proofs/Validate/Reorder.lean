import Conform.Proofs.Coerce
import Conform.Proofs.Validate.Parts
import Conform.Proofs.Value.Similar

/-!
# The order of keys in the input

Two runs on inputs that differ in the order of keys find different failures on their way, but accept
the same inputs: no step of the walk reads the order. The outputs are as far apart as the inputs where
keys are copied as they come, and equal elsewhere.

* `Predicate.standard`: predicates of the language, and `eval_similar`: they do not see the order;
* `Schema.ShowsOrder`: the types that copy keys in the order of the input;
* `Link Q`: a relation between the outputs of two runs; equality and `Value.Similar` are the instances;
* `walk_similar`: the step, from the parts of a type to the type, for any such relation;
* `order_ignored`: the main statement.
-/

namespace Conform

/-! ## Predicates -/

namespace Predicate

mutual

/-- Is the predicate made without functions from outside? -/
def standard : Predicate → Bool
  | .compare _ _ => true
  | .even => true
  | .odd => true
  | .minLength _ => true
  | .maxLength _ => true
  | .matching _ => true
  | .all ps => standardAll ps
  | .any ps => standardAll ps
  | .not p => standard p
  | .custom _ => false

/-- Are all predicates made without functions from outside? -/
def standardAll : List Predicate → Bool
  | [] => true
  | p :: r => standard p && standardAll r

end

section Similar

variable {v v' : Value}

mutual

/-- **A standard predicate does not see the order of keys.** -/
theorem eval_similar (h : v.Similar v') :
    ∀ (p : Predicate), p.standard = true → p.eval v' = p.eval v
  | .compare op b, _ => by simp only [eval, h.compare? b]
  | .even, _ => by simp only [eval, h.int?]
  | .odd, _ => by simp only [eval, h.int?]
  | .minLength n, _ => by simp only [eval, h.length?]
  | .maxLength n, _ => by simp only [eval, h.length?]
  | .matching p, _ => by simp only [eval, h.str?]
  | .all ps, hp => by
    rw [standard] at hp
    exact (evalAll_similar h ps hp).1
  | .any ps, hp => by
    rw [standard] at hp
    exact (evalAll_similar h ps hp).2
  | .not p, hp => by
    rw [standard] at hp
    rw [eval, eval, eval_similar h p hp]
  | .custom f, hp => by simp [standard] at hp

theorem evalAll_similar (h : v.Similar v') : ∀ (ps : List Predicate), standardAll ps = true →
    evalAll ps v' = evalAll ps v ∧ evalAny ps v' = evalAny ps v
  | [], _ => ⟨rfl, rfl⟩
  | p :: r, hp => by
    rw [standardAll, Bool.and_eq_true] at hp
    obtain ⟨hall, hany⟩ := evalAll_similar h r hp.2
    have hhead := eval_similar h p hp.1
    exact ⟨by rw [evalAll, evalAll, hhead, hall], by rw [evalAny, evalAny, hhead, hany]⟩

end

end Similar

end Predicate

namespace Schema

/-- All predicates of the type itself are standard. -/
def Standard : Schema → Prop
  | .refined _ cs => ∀ c ∈ cs, c.predicate.standard = true
  | _ => True

/-- The type copies keys in the order of the input: it accepts anything, keeps keys that it does not
declare, or has a list or a record among its members. -/
def ShowsOrder : Schema → Prop
  | .primitive k => k = .any
  | .literal ms => ∃ m ∈ ms, (∃ xs, m = .list xs) ∨ ∃ fs, m = .record fs
  | .record _ (.typed _) => True
  | _ => False

end Schema

namespace Validate

open Entries (keys Paired)

/-! ## Outputs of two runs -/

/-- A relation between the outputs of two runs, at most similarity, that holds of containers when it
holds of what is in them, place by place. -/
structure Link (Q : Value → Value → Prop) : Prop where
  refl : ∀ o, Q o o
  similar : ∀ {o o'}, Q o o' → o.Similar o'
  list : ∀ {os os'}, List.Forall₂ Q os os' → Q (.list os) (.list os')
  record : ∀ {m m'}, List.Forall₂ (Paired Q) m m' → Q (.record m) (.record m')

theorem link_eq : Link (· = ·) where
  refl _ := rfl
  similar h := h ▸ .same
  list h := congrArg Value.list (List.forall₂_eq_eq_eq ▸ h)
  record {m m'} h := by
    have heq : List.Forall₂ (· = ·) m m' := h.imp fun _ _ he => Prod.ext he.1.symm he.2
    exact congrArg Value.record (List.forall₂_eq_eq_eq ▸ heq)

theorem link_similar : Link Value.Similar where
  refl _ := .same
  similar h := h
  list h := .list h
  record h := Value.similar_record (.refl _) h

/-- The second run succeeds when the first one does, with a related output. -/
def Carries (Q : Value → Value → Prop) (x x' : Except Failure Value) : Prop :=
  ∀ o, x = .ok o → ∃ o', x' = .ok o' ∧ Q o o'

/-- What one list makes of its elements, place by place, a list with related elements does too. -/
theorem forall₂_carries {α β : Type} {S : α → α → Prop} {W : α → β → Prop} {T : β → β → Prop}
    {xs ys : List α} {os : List β} (hxy : List.Forall₂ S xs ys) (hos : List.Forall₂ W xs os)
    (step : ∀ x ∈ xs, ∀ y, S x y → ∀ o, W x o → ∃ o', W y o' ∧ T o o') :
    ∃ os', List.Forall₂ W ys os' ∧ List.Forall₂ T os os' := by
  induction hxy generalizing os with
  | nil =>
    cases hos
    exact ⟨[], .nil, .nil⟩
  | cons hx _ ih =>
    cases hos with
    | cons ho hos =>
      obtain ⟨o', hy, hoo⟩ := step _ List.mem_cons_self _ hx _ ho
      obtain ⟨os', hys, hoos⟩ := ih hos fun x hx => step x (List.mem_cons_of_mem _ hx)
      exact ⟨o' :: os', .cons hy hys, .cons hoo hoos⟩

/-- The first element that gives something is the same for both functions. -/
theorem findSome?_carries {α : Type} {Q : Value → Value → Prop} {f f' : α → Option Value}
    {l : List α} (hto : ∀ a ∈ l, ∀ o, f a = some o → ∃ o', f' a = some o' ∧ Q o o')
    (hback : ∀ a ∈ l, ∀ o', f' a = some o' → ∃ o, f a = some o) {o : Value}
    (ho : l.findSome? f = some o) : ∃ o', l.findSome? f' = some o' ∧ Q o o' := by
  induction l with
  | nil => simp at ho
  | cons a l ih =>
    rw [List.findSome?_cons] at ho ⊢
    cases ha : f a with
    | some p =>
      obtain rfl : p = o := by simpa [ha] using ho
      obtain ⟨o', ha', hq⟩ := hto a List.mem_cons_self p ha
      exact ⟨o', by rw [ha'], hq⟩
    | none =>
      have ha' : f' a = none := by
        refine Option.eq_none_iff_forall_not_mem.2 fun o' hmem => ?_
        obtain ⟨p, hp⟩ := hback a List.mem_cons_self o' hmem
        simp [ha] at hp
      rw [ha] at ho
      rw [ha']
      exact ih (fun b hb => hto b (List.mem_cons_of_mem _ hb))
        (fun b hb => hback b (List.mem_cons_of_mem _ hb)) ho

/-! ## Coercion and members -/

section Coerce

variable {v v' o : Value}

/-- Only the kind of all values coerces lists and records. -/
theorem coerce_similar {k : Kind} (h : v.Similar v') (ho : coerce k v = .ok o) :
    ∃ o', coerce k v' = .ok o' ∧ o.Similar o' ∧ (k ≠ .any → o' = o) := by
  by_cases hv : Kind.of v = .any
  · have hk : k = .any := by
      rcases Coerce.coerce_cases ho with ⟨-, hk | hk⟩ | ⟨⟨s, rfl⟩, -, -⟩ | ⟨n, rfl, -, -⟩ |
        ⟨d, rfl, -, -⟩
      · exact hk
      · rw [← hk, hv]
      · simp [Kind.of] at hv
      · simp [Kind.of] at hv
      · simp [Kind.of] at hv
    subst hk
    obtain rfl : v = o := by simpa [coerce] using ho
    exact ⟨v', by simp [coerce], h, fun hne => absurd rfl hne⟩
  · rw [h.eq_of_kind hv]
    exact ⟨o, ho, .same, fun _ => rfl⟩

theorem container_of_kind {m : Value} (h : Kind.of m = .any) :
    (∃ xs, m = .list xs) ∨ ∃ fs, m = .record fs := by
  cases m with
  | list xs => exact Or.inl ⟨xs, rfl⟩
  | record fs => exact Or.inr ⟨fs, rfl⟩
  | _ => simp [Kind.of] at h

theorem pick_similar {m : Value} (h : v.Similar v') (ho : pick v m = some o) :
    ∃ o', pick v' m = some o' ∧ o.Similar o' ∧ (Kind.of m ≠ .any → o' = o) := by
  obtain ⟨ho, hsame⟩ := pick_eq_some.1 ho
  obtain ⟨o', ho', hsim, heq⟩ := coerce_similar h ho
  exact ⟨o', pick_eq_some.2 ⟨ho', Value.same_of_similar hsim m hsame⟩, hsim, heq⟩

end Coerce

/-! ## Records -/

section Record

variable {Q : Value → Value → Prop} {e : String → Value → Except Failure Value}
  {m p m' : List (String × Value)} (hp : m.Perm p) (h : List.Forall₂ (Paired Value.Similar) p m')

include hp h

theorem undeclared_similar (fs : List (Field Schema)) : ∃ q, (undeclared fs m).Perm q ∧
    List.Forall₂ (Paired Value.Similar) q (undeclared fs m') := by
  refine ⟨undeclared fs p, hp.filter _, ?_⟩
  refine List.rel_filter (fun {en en'} hen => ?_) h
  simp only [hen.1]

/-- Declared fields are looked up, so the second record gives them in the order of the first. -/
theorem walkFields_similar (hm : (keys m).Nodup) {fs : List (Field Schema)}
    (field : ∀ f ∈ fs, ∀ a a', Entries.find? f.name m = some a → a.Similar a' →
      Carries Q (walk e f.type a) (walk e f.type a'))
    {os : List (String × Value)} (hos : walkFields e m fs = .ok os) :
    ∃ os', walkFields e m' fs = .ok os' ∧ List.Forall₂ (Paired Q) os os' := by
  induction fs generalizing os with
  | nil => exact ⟨[], rfl, by simp_all⟩
  | cons f fs ih =>
    have later : ∀ os, walkFields e m fs = .ok os →
        ∃ os', walkFields e m' fs = .ok os' ∧ List.Forall₂ (Paired Q) os os' :=
      fun os => ih fun f hf => field f (List.mem_cons_of_mem _ hf)
    rw [walkFields_cons] at hos ⊢
    rcases Value.find?_similar hp h hm f.name with ⟨hnone, hnone'⟩ | ⟨a, a', ha, ha', hsim⟩
    · rw [hnone] at hos
      rw [hnone']
      cases hr : f.required with
      | true => simp [hr] at hos
      | false => exact later os (by simpa [hr] using hos)
    · rw [ha] at hos
      rw [ha']
      obtain ⟨o, ho, hos⟩ := Outcome.bind_eq_ok.1 hos
      obtain ⟨r, hr, hos⟩ := Outcome.bind_eq_ok.1 hos
      obtain rfl := Except.ok.inj hos
      obtain ⟨o', ho', hq⟩ := field f List.mem_cons_self a a' ha hsim o (inside_eq_ok.1 ho)
      obtain ⟨r', hr', hqs⟩ := later r hr
      refine ⟨(f.name, o') :: r', ?_, .cons ⟨rfl, hq⟩ hqs⟩
      refine Outcome.bind_eq_ok.2 ⟨o', inside_eq_ok.2 ho', ?_⟩
      exact Outcome.bind_eq_ok.2 ⟨r', hr', rfl⟩

/-- Keys that a record does not declare are in the output in the order of the input. -/
theorem walkExtras_similar {fs : List (Field Schema)} {ex : Extras Schema}
    (extra : ∀ t, ex = .typed t → ∀ en ∈ m, ∀ a', en.2.Similar a' →
      Carries Value.Similar (walk e t en.2) (walk e t a'))
    {os : List (String × Value)} (hos : walkExtras e (undeclared fs m) ex = .ok os) :
    ∃ qs os', walkExtras e (undeclared fs m') ex = .ok os' ∧ os.Perm qs ∧
      List.Forall₂ (Paired Value.Similar) qs os' := by
  obtain ⟨q, hperm, hpairs⟩ := undeclared_similar hp h fs
  cases ex with
  | ignored =>
    obtain rfl := Except.ok.inj hos
    exact ⟨[], [], rfl, .refl _, .nil⟩
  | closed =>
    cases hnil : undeclared fs m with
    | cons en r => simp [hnil] at hos
    | nil =>
      obtain rfl : os = [] := by simpa [hnil, eq_comm] using hos
      rw [hnil] at hperm
      obtain rfl := hperm.nil_eq
      rw [List.forall₂_nil_left_iff.1 hpairs]
      exact ⟨[], [], rfl, .refl _, .nil⟩
  | typed t =>
    rw [walkExtras_typed, entries_eq_ok] at hos
    -- the outputs are put in the order of the second record first, then paired off
    obtain ⟨qs, hqs, hback⟩ : Relation.Comp
        (List.Forall₂ fun en o => o.1 = en.1 ∧ walk e t en.2 = .ok o.2) List.Perm q os := by
      rw [List.forall₂_comp_perm_eq_perm_comp_forall₂]
      exact ⟨_, hperm.symm, hos⟩
    have step : ∀ en ∈ q, ∀ en', Paired Value.Similar en en' → ∀ o : String × Value,
        (o.1 = en.1 ∧ walk e t en.2 = .ok o.2) →
        ∃ o' : String × Value, (o'.1 = en'.1 ∧ walk e t en'.2 = .ok o'.2) ∧
          Paired Value.Similar o o' := by
      intro en hen en' hee o ho
      have hmem : en ∈ m := mem_of_undeclared (hperm.mem_iff.2 hen)
      obtain ⟨o', ho', hsim⟩ := extra t rfl en hmem en'.2 hee.2 o.2 ho.2
      exact ⟨(en'.1, o'), ⟨rfl, ho'⟩, hee.1.trans ho.1.symm, hsim⟩
    obtain ⟨os', hos', hall⟩ := forall₂_carries hpairs hqs step
    exact ⟨qs, os', entries_eq_ok.2 hos', hback.symm, hall⟩

end Record

/-! ## The walk -/

section Walk

variable {Q : Value → Value → Prop} {e : String → Value → Except Failure Value}

/-- The outputs for similar inputs are related; where one input fails, so does the other. -/
def IgnoresOrder (Q : Value → Value → Prop) (f : Value → Except Failure Value) : Prop :=
  ∀ v v', v.Distinct → v.Similar v' → Carries Q (f v) (f v')

/-- The first member that matches is the same. -/
theorem walk_literal_similar (hQ : Link Q) {ms : List Value}
    (hloose : (Schema.literal ms).ShowsOrder → ∀ o o', o.Similar o' → Q o o') :
    IgnoresOrder Q (walk e (.literal ms)) := by
  intro v v' _ h o ho
  have hto : ∀ m ∈ ms, ∀ p, pick v m = some p → ∃ p', pick v' m = some p' ∧ Q p p' := by
    intro m hm p hp
    obtain ⟨p', hp', hsim, heq⟩ := pick_similar h hp
    refine ⟨p', hp', ?_⟩
    by_cases hk : Kind.of m = .any
    · exact hloose ⟨m, hm, container_of_kind hk⟩ p p' hsim
    · rw [heq hk]
      exact hQ.refl p
  have hback : ∀ m ∈ ms, ∀ p', pick v' m = some p' → ∃ p, pick v m = some p := by
    intro m _ p' hp'
    obtain ⟨p, hp, -⟩ := pick_similar h.symm hp'
    exact ⟨p, hp⟩
  obtain ⟨o', ho', hq⟩ := findSome?_carries hto hback (walk_literal_ok.1 ho)
  exact ⟨o', walk_literal_ok.2 ho', hq⟩

/-- The first branch that matches is the same: a branch that fails on the first input fails on the
second, as the runs may change places. -/
theorem walk_union_similar {ts : List Schema} (part : ∀ u ∈ ts, IgnoresOrder Q (walk e u)) :
    IgnoresOrder Q (walk e (.union ts)) := by
  intro v v' hd h o ho
  have hto : ∀ u ∈ ts, ∀ p, (walk e u v).toOption = some p →
      ∃ p', (walk e u v').toOption = some p' ∧ Q p p' := by
    intro u hu p hp
    obtain ⟨p', hp', hq⟩ := part u hu v v' hd h p (Outcome.toOption_eq_some.1 hp)
    exact ⟨p', Outcome.toOption_eq_some.2 hp', hq⟩
  have hback : ∀ u ∈ ts, ∀ p', (walk e u v').toOption = some p' →
      ∃ p, (walk e u v).toOption = some p := by
    intro u hu p' hp'
    obtain ⟨p, hp, -⟩ := part u hu v' v (h.distinct hd) h.symm p' (Outcome.toOption_eq_some.1 hp')
    exact ⟨p, Outcome.toOption_eq_some.2 hp⟩
  obtain ⟨o', ho', hq⟩ := findSome?_carries hto hback (walk_union_ok.1 ho)
  exact ⟨o', walk_union_ok.2 ho', hq⟩

/-- Keys that a record does not declare come behind those it declares. -/
theorem settle_extras {m declared others : List (String × Value)} {fs : List (Field Schema)}
    {ex : Extras Schema} (hm : (keys m).Nodup) (hd : walkFields e m fs = .ok declared)
    (ho : walkExtras e (undeclared fs m) ex = .ok others) :
    Entries.settle (declared ++ others) = Entries.settle declared ++ others := by
  refine Entries.settle_append_new ?_ fun k hk hkd => ?_
  · obtain ⟨hnone, htyped⟩ := walkExtras_eq_ok ho
    cases ex with
    | typed t =>
      rw [keys_of_forall₂ (htyped t rfl)]
      exact hm.sublist (List.filter_sublist.map _)
    | _ => simp [hnone (by simp), keys]
  · exact notMem_of_walkExtras ho hk ((keys_sublist_of_walkFields hd).subset hkd)

/-- What a record type makes of similar records. -/
theorem walk_record_similar (hQ : Link Q) {fs : List (Field Schema)} {ex : Extras Schema}
    (hloose : (Schema.record fs ex).ShowsOrder → ∀ o o', o.Similar o' → Q o o')
    (part : ∀ u ∈ (Schema.record fs ex).parts, IgnoresOrder Q (walk e u)) :
    IgnoresOrder Q (walk e (.record fs ex)) := by
  intro v v' hd h o ho
  obtain ⟨m, declared, others, rfl, hdeclared, hothers, rfl⟩ := walk_record_ok.1 ho
  obtain ⟨p, m', rfl, hp, hpairs⟩ := h.record_left
  obtain ⟨hm, hfields⟩ := Value.distinct_record.1 hd
  have field : ∀ f ∈ fs, ∀ a a', Entries.find? f.name m = some a → a.Similar a' →
      Carries Q (walk e f.type a) (walk e f.type a') := by
    intro f hf a a' ha
    exact part f.type (Schema.field_mem_parts hf) a a' (hfields _ (Entries.mem_of_find? ha))
  have extra : ∀ t, ex = .typed t → ∀ en ∈ m, ∀ a', en.2.Similar a' →
      Carries Value.Similar (walk e t en.2) (walk e t a') := by
    rintro t rfl en hen a' hsim b hb
    obtain ⟨b', hb', hq⟩ := part t Schema.extras_mem_parts en.2 a' (hfields en hen) hsim b hb
    exact ⟨b', hb', hQ.similar hq⟩
  obtain ⟨declared', hdeclared', hdd⟩ := walkFields_similar hp hpairs hm field hdeclared
  obtain ⟨qs, others', hothers', hperm, hoo⟩ := walkExtras_similar hp hpairs extra hothers
  refine ⟨_, walk_record_ok.2 ⟨m', declared', others', rfl, hdeclared', hothers', rfl⟩, ?_⟩
  have hm' : (keys m').Nodup := Value.nodup_keys_of_similar hp hpairs hm
  rw [settle_extras hm hdeclared hothers, settle_extras hm' hdeclared' hothers']
  have hsettled := Entries.settle_paired hdd
  cases ex with
  | typed t =>
    refine hloose trivial _ _ (Value.similar_record (hperm.append_left _) ?_)
    exact List.rel_append (hsettled.imp fun _ _ hee => ⟨hee.1, hQ.similar hee.2⟩) hoo
  | _ =>
    rw [(walkExtras_eq_ok hothers).1 (by simp), (walkExtras_eq_ok hothers').1 (by simp)]
    simpa using hQ.record hsettled

/-- **The step.** Where the parts and the names of a type carry outputs over, the type does. -/
theorem walk_similar (hQ : Link Q) {V : Schema → Prop}
    (hpart : ∀ t, V t → ∀ u ∈ t.parts, V u) (hstandard : ∀ t, V t → t.Standard)
    (hloose : ∀ t, V t → t.ShowsOrder → ∀ o o', o.Similar o' → Q o o')
    (name : ∀ n, V (.ref n) → IgnoresOrder Q (e n)) (t : Schema) (ht : V t) :
    IgnoresOrder Q (walk e t) := by
  induction t using Schema.ind with
  | _ t part =>
    have part : ∀ u ∈ t.parts, IgnoresOrder Q (walk e u) := fun u hu => part u hu (hpart t ht u hu)
    intro v v' hd h o ho
    cases t with
    | ref n => exact name n ht v v' hd h o ho
    | primitive k =>
      obtain ⟨o', ho', hsim, heq⟩ := coerce_similar h (walk_primitive_ok.1 ho)
      refine ⟨o', walk_primitive_ok.2 ho', ?_⟩
      by_cases hk : k = .any
      · exact hloose _ ht hk o o' hsim
      · rw [heq hk]
        exact hQ.refl o
    | literal ms => exact walk_literal_similar hQ (hloose _ ht) v v' hd h o ho
    | nullable t =>
      rcases walk_nullable_ok.1 ho with ⟨rfl, rfl⟩ | ⟨hv, ho⟩
      · obtain rfl := h.eq_of_kind (by simp [Kind.of])
        exact ⟨_, ho, hQ.refl _⟩
      · obtain ⟨o', ho', hq⟩ := part t (by simp [Schema.parts]) v v' hd h o ho
        exact ⟨o', walk_nullable_ok.2 (Or.inr ⟨h.isNull.trans hv, ho'⟩), hq⟩
    | union ts => exact walk_union_similar part v v' hd h o ho
    | array t =>
      obtain ⟨xs, os, rfl, rfl, hos⟩ := walk_array_ok.1 ho
      obtain ⟨ys, rfl, hxy⟩ := h.list_left
      have step : ∀ x ∈ xs, ∀ y, x.Similar y → Carries Q (walk e t x) (walk e t y) :=
        fun x hx y => part t (by simp [Schema.parts]) x y (Value.distinct_list.1 hd x hx)
      obtain ⟨os', hos', hq⟩ := forall₂_carries hxy hos step
      exact ⟨_, walk_array_ok.2 ⟨ys, os', rfl, rfl, hos'⟩, hQ.list hq⟩
    | record fs ex => exact walk_record_similar hQ (hloose _ ht) part v v' hd h o ho
    | refined t cs =>
      obtain ⟨ho, hcs⟩ := walk_refined_ok.1 ho
      obtain ⟨o', ho', hq⟩ := part t (by simp [Schema.parts]) v v' hd h o ho
      refine ⟨o', walk_refined_ok.2 ⟨ho', fun c hc => ?_⟩, hq⟩
      rw [Predicate.eval_similar (hQ.similar hq) _ (hstandard _ ht c hc)]
      exact hcs c hc

end Walk

/-! ## References -/

section Follow

variable {Q : Value → Value → Prop} {s : Scope} {t : Schema}

theorem walk_follow_similar (hQ : Link Q) (hstandard : ∀ h u, s.Visits t h u → u.Standard)
    (hloose : ∀ h u, s.Visits t h u → u.ShowsOrder → ∀ o o', o.Similar o' → Q o o') (fuel : Nat)
    {h : Scope} {u : Schema} (hu : s.Visits t h u) : IgnoresOrder Q (walk (follow fuel h) u) := by
  induction fuel generalizing h u with
  | zero =>
    refine walk_similar hQ (fun _ hw _ hpart => .part hw hpart) (hstandard h) (hloose h) ?_ u hu
    intro n _ v v' _ _ o ho
    simp [follow] at ho
  | succ fuel ih =>
    refine walk_similar hQ (fun _ hw _ hpart => .part hw hpart) (hstandard h) (hloose h) ?_ u hu
    intro n hn v v' hd hsim o ho
    cases hr : h.resolve n with
    | none => simp [follow, hr] at ho
    | some target =>
      obtain ⟨w, home⟩ := target
      simp only [follow, hr] at ho ⊢
      exact ih (.target hn hr) v v' hd hsim o ho

/-- Similar inputs of one type: the second is accepted if the first is. -/
theorem validateIn_similar (hQ : Link Q) (hstandard : ∀ h u, s.Visits t h u → u.Standard)
    (hloose : ∀ h u, s.Visits t h u → u.ShowsOrder → ∀ o o', o.Similar o' → Q o o') :
    IgnoresOrder Q (validateIn s t) := by
  intro v v' hd h
  rw [validateIn, validateIn, h.depth]
  exact walk_follow_similar hQ hstandard hloose _ .start v v' hd h

/-- **The order of keys does not matter.** Let no predicate in reach of a type be a function from
outside. Of two inputs that differ in the order of keys, at any depth, and repeat no key in a record,
both are accepted or none, and the outputs differ in the order of keys only. They are equal when no
type in reach copies keys in the order of the input. -/
theorem order_ignored (hstandard : ∀ g u, s.Visits t g u → u.Standard) {v v' : Value}
    (hd : v.Distinct) (h : v.Similar v') :
    ((∃ o, validateIn s t v = .ok o) ↔ ∃ o', validateIn s t v' = .ok o') ∧
    (∀ o o', validateIn s t v = .ok o → validateIn s t v' = .ok o' → o.Similar o') ∧
    ((∀ g u, s.Visits t g u → ¬ u.ShowsOrder) →
      ∀ o, validateIn s t v = .ok o ↔ validateIn s t v' = .ok o) := by
  have hd' : v'.Distinct := h.distinct hd
  have hsimilar : IgnoresOrder Value.Similar (validateIn s t) :=
    validateIn_similar link_similar hstandard fun _ _ _ _ _ _ h => h
  refine ⟨⟨?_, ?_⟩, ?_, fun hhidden => ?_⟩
  · rintro ⟨o, ho⟩
    obtain ⟨o', ho', -⟩ := hsimilar v v' hd h o ho
    exact ⟨o', ho'⟩
  · rintro ⟨o', ho'⟩
    obtain ⟨o, ho, -⟩ := hsimilar v' v hd' h.symm o' ho'
    exact ⟨o, ho⟩
  · intro o o' ho ho'
    obtain ⟨p, hp, hsim⟩ := hsimilar v v' hd h o ho
    obtain rfl := Except.ok.inj (hp.symm.trans ho')
    exact hsim
  · have hequal : IgnoresOrder (· = ·) (validateIn s t) :=
      validateIn_similar link_eq hstandard fun g u hu hshow => absurd hshow (hhidden g u hu)
    intro o
    constructor
    · intro ho
      obtain ⟨o', ho', rfl⟩ := hequal v v' hd h o ho
      exact ho'
    · intro ho'
      obtain ⟨o, ho, rfl⟩ := hequal v' v hd' h.symm o ho'
      exact ho

end Follow

end Validate

/-! ## An example: trees that are grafted on each other -/

namespace Builder

/-- A tree, with the trees grafted on it; a constraint asks for two fields. -/
def grafted : Schema :=
  .refined (.record [⟨"sort", .literal [.str "oak", .str "elm"], true⟩,
      ⟨"age", .union [.primitive .int, .primitive .null], false⟩,
      ⟨"grafts", .array (.ref "Tree"), false⟩] .closed)
    [⟨none, .any [.minLength 2, .not (.minLength 0)]⟩]

/-- The trees of an orchard. -/
def orchard : Builder where
  name := "orchard"
  parent := none
  bindings := [("Tree", grafted)]

/-- The types that are walked from a tree. -/
def orchardTypes : List Schema := [.ref "Tree", grafted] ++ grafted.parts ++
  grafted.parts.flatMap Schema.parts ++ [.primitive .int, .primitive .null]

theorem orchard_visits {h : Scope} {u : Schema} (hu : orchard.scope.Visits (.ref "Tree") h u) :
    u.Standard ∧ ¬ u.ShowsOrder := by
  have hall : ∀ u ∈ orchardTypes, u.Standard ∧ ¬ u.ShowsOrder := by
    simp [orchardTypes, grafted, Schema.parts, Schema.Standard, Schema.ShowsOrder,
      Predicate.standard, Predicate.standardAll]
  have hmem : h = orchard.scope ∧ u ∈ orchardTypes := by
    refine hu.mem rfl ?_ ?_ ?_
    · simp [orchardTypes, grafted, Schema.parts]
    · simp [orchardTypes, orchard, scope]
    · simp [orchardTypes]
  exact hall u hmem.2

/-- A tree with a graft, its age written as a text. -/
def oak : Value := .record [("sort", .str "oak"), ("age", .str "7"),
  ("grafts", .list [.record [("sort", .str "elm"), ("age", .null)]])]

/-- The same tree, with the keys in another order, also in the graft. -/
def shuffledOak : Value := .record [("age", .str "7"), ("sort", .str "oak"),
  ("grafts", .list [.record [("age", .null), ("sort", .str "elm")]])]

theorem oak_distinct : oak.Distinct := by
  have hscalar : ∀ s, (Value.str s).Distinct := fun s => Value.distinct_of_kind (by simp [Kind.of])
  have hnull : Value.null.Distinct := Value.distinct_of_kind (by simp [Kind.of])
  simp [oak, Value.distinct_record, Value.distinct_list, Entries.keys, hscalar, hnull]

theorem oak_similar : oak.Similar shuffledOak := by
  have hgraft : Value.Similar (.record [("sort", .str "elm"), ("age", .null)])
      (.record [("age", .null), ("sort", .str "elm")]) :=
    .record (.swap _ _ _) (.cons (.field .same) (.cons (.field .same) .nil))
  have hgrafts := Value.Similar.list (.cons hgraft .nil)
  refine .record (.swap _ _ _) ?_
  exact .cons (.field .same) (.cons (.field .same) (.cons (.field hgrafts) .nil))

end Builder

namespace Validate

/-- A tree is accepted in both orders, with one output. -/
theorem order_ignored_orchard :
    Builder.oak.Distinct ∧ Builder.oak.Similar Builder.shuffledOak ∧
    (∀ h u, Builder.orchard.scope.Visits (.ref "Tree") h u → u.Standard ∧ ¬ u.ShowsOrder) ∧
    validateIn Builder.orchard.scope (.ref "Tree") Builder.oak =
      .ok (.record [("sort", .str "oak"), ("age", .int 7), ("grafts", .list [.record
          [("sort", .str "elm"), ("age", .null)]])]) ∧
    validateIn Builder.orchard.scope (.ref "Tree") Builder.shuffledOak =
      .ok (.record [("sort", .str "oak"), ("age", .int 7), ("grafts", .list [.record
          [("sort", .str "elm"), ("age", .null)]])]) := by
  obtain ⟨-, -, hequal⟩ := order_ignored (s := Builder.orchard.scope) (t := .ref "Tree")
    (fun _ _ hu => (Builder.orchard_visits hu).1) Builder.oak_distinct Builder.oak_similar
  have hoak := hequal fun _ _ hu => (Builder.orchard_visits hu).2
  exact ⟨Builder.oak_distinct, Builder.oak_similar, fun _ _ => Builder.orchard_visits, rfl,
    (hoak _).1 rfl⟩

end Validate

end Conform
