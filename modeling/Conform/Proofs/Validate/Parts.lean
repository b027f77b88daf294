import Conform.Proofs.Entries
import Conform.Proofs.Outcome
import Conform.Validate
import Mathlib.Data.List.Forall2

/-!
# The outcomes of parts

A list, a record, a union and a literal are validated part by part. For each of these loops one lemma
says when it succeeds and with what. The outcomes of the parts themselves stay abstract: `f`, or the
walk with some expansion `e` of references.
-/

namespace Conform.Validate

open Entries (keys)

theorem exists_of_mem_right {α β : Type} {R : α → β → Prop} {l : List α} {l' : List β}
    (h : List.Forall₂ R l l') {b : β} (hb : b ∈ l') : ∃ a ∈ l, R a b := by
  induction h with
  | nil => simp at hb
  | cons hr _ ih =>
    rcases List.mem_cons.1 hb with rfl | hb
    · exact ⟨_, List.mem_cons_self, hr⟩
    · obtain ⟨a, ha, hab⟩ := ih hb
      exact ⟨a, List.mem_cons_of_mem _ ha, hab⟩

theorem forall₂_imp_of_mem {α β : Type} {R R' : α → β → Prop} {l : List α} {l' : List β}
    (h : List.Forall₂ R l l') (himp : ∀ a ∈ l, ∀ b ∈ l', R a b → R' a b) : List.Forall₂ R' l l' := by
  induction h with
  | nil => exact .nil
  | cons hr _ ih =>
    refine .cons (himp _ List.mem_cons_self _ List.mem_cons_self hr) (ih fun a ha b hb => ?_)
    exact himp a (List.mem_cons_of_mem _ ha) b (List.mem_cons_of_mem _ hb)

/-! ## The equations of the walk

The walk and its loops are one recursion on the type. The equations hold by evaluation, and all
proofs go through them. -/

section Equations

variable (e : String → Value → Except Failure Value) (v : Value) (m es : List (String × Value))

@[simp]
theorem walk_primitive (k : Kind) :
    walk e (.primitive k) v = (coerce k v).mapError Failure.ofCoerce := rfl

@[simp]
theorem walk_literal (ms : List Value) : walk e (.literal ms) v =
    match literal v ms with
    | some o => .ok o
    | none => .error (.literal ms v) := rfl

@[simp]
theorem walk_nullable (t : Schema) :
    walk e (.nullable t) v = if v.isNull then .ok .null else walk e t v := rfl

@[simp]
theorem walk_union (ts : List Schema) :
    walk e (.union ts) v = (walkBranches e ts v).mapError Failure.noBranch := rfl

@[simp]
theorem walk_array (t : Schema) : walk e (.array t) v =
    match v with
    | .list xs => (items (walk e t) 0 xs).map .list
    | v => .error (.shape "List" v) := rfl

@[simp]
theorem walk_record (fs : List (Field Schema)) (ex : Extras Schema) : walk e (.record fs ex) v =
    match v with
    | .record m => do
      let declared ← walkFields e m fs
      let others ← walkExtras e (undeclared fs m) ex
      return .record (Entries.settle (declared ++ others))
    | v => .error (.shape "Record" v) := rfl

@[simp]
theorem walk_refined (t : Schema) (cs : List Constraint) : walk e (.refined t cs) v = (do
    let o ← walk e t v
    match broken? o cs with
    | some c => .error (.violated c)
    | none => return o) := rfl

@[simp]
theorem walk_expand (n : String) : walk e (.ref n) v = e n v := rfl

@[simp]
theorem walkBranches_nil : walkBranches e [] v = .error none := rfl

@[simp]
theorem walkBranches_cons (t : Schema) (ts : List Schema) : walkBranches e (t :: ts) v =
    match walk e t v with
    | .ok o => .ok o
    | .error f => (walkBranches e ts v).mapError fun _ => some f := rfl

@[simp]
theorem walkFields_nil : walkFields e m [] = .ok [] := rfl

@[simp]
theorem walkFields_cons (f : Field Schema) (fs : List (Field Schema)) : walkFields e m (f :: fs) =
    match Entries.find? f.name m with
    | some v => do
      let o ← inside (.field f.name) (walk e f.type v)
      let os ← walkFields e m fs
      return (f.name, o) :: os
    | none => if f.required then .error (.missing f.name) else walkFields e m fs := rfl

@[simp]
theorem walkExtras_closed : walkExtras e es .closed =
    match es with
    | [] => .ok []
    | (k, _) :: _ => .error (.unknown k) := rfl

@[simp]
theorem walkExtras_ignored : walkExtras e es .ignored = .ok [] := rfl

@[simp]
theorem walkExtras_typed (t : Schema) : walkExtras e es (.typed t) = entries (walk e t) es := rfl

end Equations

/-! ## Items and entries -/

section Items

variable {f : Value → Except Failure Value}

theorem inside_eq_ok {α : Type} {g : Segment} {r : Except Failure α} {a : α} :
    inside g r = .ok a ↔ r = .ok a :=
  Outcome.mapError_eq_ok

theorem inside_eq_error {α : Type} {g : Segment} {r : Except Failure α} {x : Failure} :
    inside g r = .error x ↔ ∃ y, r = .error y ∧ y.under [g] = x :=
  Outcome.mapError_eq_error

theorem items_eq_ok {i : Nat} {xs os : List Value} :
    items f i xs = .ok os ↔ List.Forall₂ (fun v o => f v = .ok o) xs os := by
  induction xs generalizing i os with
  | nil => simp [items, eq_comm]
  | cons v r ih =>
    simp only [items, Outcome.bind_eq_ok, inside_eq_ok, ih, pure, Except.pure, Except.ok.injEq,
      List.forall₂_cons_left_iff]
    constructor
    · rintro ⟨o, hv, os', hr, rfl⟩
      exact ⟨o, os', hv, hr, rfl⟩
    · rintro ⟨o, os', hv, hr, rfl⟩
      exact ⟨o, hv, os', hr, rfl⟩

theorem entries_eq_ok {es os : List (String × Value)} :
    entries f es = .ok os ↔ List.Forall₂ (fun e o => o.1 = e.1 ∧ f e.2 = .ok o.2) es os := by
  induction es generalizing os with
  | nil => simp [entries, eq_comm]
  | cons e r ih =>
    simp only [entries, Outcome.bind_eq_ok, inside_eq_ok, ih, pure, Except.pure, Except.ok.injEq,
      List.forall₂_cons_left_iff]
    constructor
    · rintro ⟨o, hv, os', hr, rfl⟩
      exact ⟨(e.1, o), os', ⟨rfl, hv⟩, hr, rfl⟩
    · rintro ⟨⟨k, o⟩, os', ⟨rfl, hv⟩, hr, rfl⟩
      exact ⟨o, hv, os', hr, rfl⟩

end Items

/-! ## Members of a literal type -/

/-- The value coerced to the kind of the member, if it then equals the member. -/
def pick (v m : Value) : Option Value :=
  match coerce (Kind.of m) v with
  | .ok o => if o.same m then some o else none
  | .error _ => none

theorem pick_eq_some {v m o : Value} :
    pick v m = some o ↔ coerce (Kind.of m) v = .ok o ∧ o.same m = true := by
  unfold pick
  cases coerce (Kind.of m) v with
  | error x => simp
  | ok o' =>
    simp only [Option.ite_none_right_eq_some, Option.some.injEq, Except.ok.injEq]
    exact ⟨fun ⟨h, e⟩ => ⟨e, e ▸ h⟩, fun ⟨e, h⟩ => ⟨e ▸ h, e⟩⟩

theorem literal_eq_findSome? (v : Value) (ms : List Value) : literal v ms = ms.findSome? (pick v) := by
  induction ms with
  | nil => rfl
  | cons m r ih =>
    simp only [literal, List.findSome?_cons, ih, pick]
    cases coerce (Kind.of m) v with
    | error x => rfl
    | ok o => cases h : o.same m <;> simp [h]

theorem broken?_eq_none {v : Value} {cs : List Constraint} :
    broken? v cs = none ↔ ∀ c ∈ cs, c.predicate.eval v = true := by
  simp [broken?]

/-! ## Branches, fields and extras -/

section Walk

variable {e : String → Value → Except Failure Value}

theorem walkBranches_eq_ok {ts : List Schema} {v o : Value} : walkBranches e ts v = .ok o ↔
    ts.findSome? (fun t => (walk e t v).toOption) = some o := by
  induction ts with
  | nil => simp
  | cons t r ih =>
    rw [walkBranches_cons, List.findSome?_cons]
    cases walk e t v with
    | ok o' => simp [Except.toOption]
    | error x => simp [Except.toOption, Outcome.mapError_eq_ok, ih]

/-- Fields succeed when the required ones are there, and those that are there succeed on their own;
the output has them in the order of declaration. -/
theorem walkFields_eq_ok {m os : List (String × Value)} {fs : List (Field Schema)} :
    walkFields e m fs = .ok os ↔ (∀ f ∈ fs, f.required = true → f.name ∈ keys m) ∧
      List.Forall₂ (fun f o => o.1 = f.name ∧
          ∃ v, Entries.find? f.name m = some v ∧ walk e f.type v = .ok o.2)
        (fs.filter fun f => f.name ∈ keys m) os := by
  induction fs generalizing os with
  | nil =>
    rw [walkFields_nil, Except.ok.injEq, List.filter_nil, List.forall₂_nil_left_iff, eq_comm]
    simp
  | cons f r ih =>
    obtain ⟨n, t, required⟩ := f
    rw [walkFields_cons]
    cases hfind : Entries.find? n m with
    | none =>
      have hn : n ∉ keys m := (Entries.find?_eq_none_iff n m).1 hfind
      cases required with
      | true => simp [hn]
      | false => simp [hn, ih]
    | some v =>
      have hn : n ∈ keys m := Entries.mem_keys_of_find? hfind
      simp only [Outcome.bind_eq_ok, inside_eq_ok, ih, pure, Except.pure, Except.ok.injEq]
      rw [List.filter_cons_of_pos (by simpa using hn), List.forall₂_cons_left_iff]
      constructor
      · rintro ⟨o, hv, os', ⟨hreq, hr⟩, rfl⟩
        refine ⟨?_, (n, o), os', ⟨rfl, v, hfind, hv⟩, hr, rfl⟩
        exact List.forall_mem_cons.2 ⟨fun _ => hn, hreq⟩
      · rintro ⟨hreq, ⟨k, o⟩, os', ⟨rfl, v', hv', hv⟩, hr, rfl⟩
        obtain rfl := Option.some.inj (hfind.symm.trans hv')
        exact ⟨o, hv, os', ⟨(List.forall_mem_cons.1 hreq).2, hr⟩, rfl⟩

/-- Extras succeed when they are not refused; only typed ones are kept. -/
theorem walkExtras_eq_ok {es os : List (String × Value)} {ex : Extras Schema}
    (h : walkExtras e es ex = .ok os) :
    ((∀ t, ex ≠ .typed t) → os = []) ∧
    ∀ t, ex = .typed t → List.Forall₂ (fun e' o => o.1 = e'.1 ∧ walk e t e'.2 = .ok o.2) es os := by
  cases ex with
  | closed =>
    cases es with
    | nil => exact ⟨fun _ => by simpa [eq_comm] using h, by simp⟩
    | cons e' r => simp at h
  | ignored => exact ⟨fun _ => by simpa [eq_comm] using h, by simp⟩
  | typed t =>
    rw [walkExtras_typed, entries_eq_ok] at h
    refine ⟨fun hne => absurd rfl (hne t), fun t' ht' => ?_⟩
    obtain rfl : t = t' := by simpa using ht'
    exact h

/-! ## The names of the outputs -/

theorem keys_of_forall₂ {α : Type} {name : α → String} {R : α → String × Value → Prop} {l : List α}
    {os : List (String × Value)} (h : List.Forall₂ (fun a o => o.1 = name a ∧ R a o) l os) :
    keys os = l.map name := by
  induction h with
  | nil => rfl
  | @cons a o l os ho _ ih =>
    rw [List.map_cons, ← ih, ← ho.1]
    rfl

/-- The output has the declared fields that are there. -/
theorem keys_of_walkFields {m os : List (String × Value)} {fs : List (Field Schema)}
    (h : walkFields e m fs = .ok os) :
    keys os = (fs.filter fun f => f.name ∈ keys m).map (·.name) :=
  keys_of_forall₂ (walkFields_eq_ok.1 h).2

theorem keys_sublist_of_walkFields {m os : List (String × Value)} {fs : List (Field Schema)}
    (h : walkFields e m fs = .ok os) : (keys os).Sublist (fs.map (·.name)) := by
  rw [keys_of_walkFields h]
  exact List.filter_sublist.map _

/-- A declared field is in the output when it is in the input. -/
theorem mem_keys_of_walkFields {m os : List (String × Value)} {fs : List (Field Schema)}
    (h : walkFields e m fs = .ok os) {f : Field Schema} (hf : f ∈ fs) :
    f.name ∈ keys os ↔ f.name ∈ keys m := by
  rw [keys_of_walkFields h]
  constructor
  · intro hmem
    obtain ⟨f', hf', hname⟩ := List.mem_map.1 hmem
    rw [← hname]
    simpa using (List.mem_filter.1 hf').2
  · intro hmem
    exact List.mem_map.2 ⟨f, List.mem_filter.2 ⟨hf, by simpa using hmem⟩, rfl⟩

/-- Every output field comes from the declared field of its name. -/
theorem field_of_walkFields {m os : List (String × Value)} {fs : List (Field Schema)}
    (hfs : (fs.map (·.name)).Nodup) (h : walkFields e m fs = .ok os) {f : Field Schema} (hf : f ∈ fs)
    {o : Value} (ho : (f.name, o) ∈ os) :
    ∃ v, Entries.find? f.name m = some v ∧ walk e f.type v = .ok o := by
  obtain ⟨f', hf', hname, hv⟩ := exists_of_mem_right (walkFields_eq_ok.1 h).2 ho
  obtain rfl : f = f' := List.inj_on_of_nodup_map hfs hf (List.mem_of_mem_filter hf') hname
  exact hv

theorem mem_undeclared {m : List (String × Value)} {fs : List (Field Schema)} {en : String × Value} :
    en ∈ undeclared fs m ↔ en ∈ m ∧ en.1 ∉ fs.map (·.name) := by
  rw [undeclared, List.mem_filter]
  simp

/-- The output has only extras that no field declares. -/
theorem notMem_of_walkExtras {m os : List (String × Value)} {fs : List (Field Schema)}
    {ex : Extras Schema} (h : walkExtras e (undeclared fs m) ex = .ok os) {k : String}
    (hk : k ∈ keys os) : k ∉ fs.map (·.name) := by
  obtain ⟨hnone, htyped⟩ := walkExtras_eq_ok h
  cases ex with
  | typed t =>
    rw [keys_of_forall₂ (htyped t rfl)] at hk
    obtain ⟨en, hen, rfl⟩ := List.mem_map.1 hk
    exact (mem_undeclared.1 hen).2
  | _ => simp [hnone (by simp), keys] at hk

/-- The names of declared fields and extras stay apart, so the output of a record has the declared
fields as they are and the extras behind them. -/
theorem settle_record {m declared others : List (String × Value)} {fs : List (Field Schema)}
    {ex : Extras Schema} (hfs : (fs.map (·.name)).Nodup) (hd : walkFields e m fs = .ok declared)
    (ho : walkExtras e (undeclared fs m) ex = .ok others) :
    Entries.settle (declared ++ others) = declared ++ Entries.settle others := by
  have hsub := keys_sublist_of_walkFields hd
  refine Entries.settle_append (hfs.sublist hsub) fun k hk hkd => ?_
  exact notMem_of_walkExtras ho hk (hsub.subset hkd)

/-! ## The walk, type by type -/

variable {v o : Value}

theorem walk_primitive_ok {k : Kind} : walk e (.primitive k) v = .ok o ↔ coerce k v = .ok o := by
  rw [walk_primitive, Outcome.mapError_eq_ok]

theorem walk_literal_ok {ms : List Value} :
    walk e (.literal ms) v = .ok o ↔ ms.findSome? (pick v) = some o := by
  rw [walk_literal, ← literal_eq_findSome?]
  cases literal v ms <;> simp

theorem walk_nullable_ok {t : Schema} : walk e (.nullable t) v = .ok o ↔
    v = .null ∧ o = .null ∨ v.isNull = false ∧ walk e t v = .ok o := by
  rw [walk_nullable]
  cases v <;> simp [Value.isNull, eq_comm]

theorem walk_union_ok {ts : List Schema} : walk e (.union ts) v = .ok o ↔
    ts.findSome? (fun t => (walk e t v).toOption) = some o := by
  rw [walk_union, Outcome.mapError_eq_ok, walkBranches_eq_ok]

theorem walk_array_ok {t : Schema} : walk e (.array t) v = .ok o ↔
    ∃ xs os, v = .list xs ∧ o = .list os ∧ List.Forall₂ (fun u p => walk e t u = .ok p) xs os := by
  cases v with
  | list xs =>
    simp only [walk_array, Outcome.map_eq_ok]
    constructor
    · rintro ⟨os, hos, rfl⟩
      exact ⟨xs, os, rfl, rfl, items_eq_ok.1 hos⟩
    · rintro ⟨_, os, hv, rfl, hos⟩
      obtain rfl := Value.list.inj hv
      exact ⟨os, items_eq_ok.2 hos, rfl⟩
  | _ => simp

theorem walk_record_ok {fs : List (Field Schema)} {ex : Extras Schema} :
    walk e (.record fs ex) v = .ok o ↔ ∃ m declared others, v = .record m ∧
      walkFields e m fs = .ok declared ∧ walkExtras e (undeclared fs m) ex = .ok others ∧
      o = .record (Entries.settle (declared ++ others)) := by
  cases v with
  | record m =>
    simp only [walk_record, Outcome.bind_eq_ok, pure, Except.pure, Except.ok.injEq]
    constructor
    · rintro ⟨declared, hd, others, ho, rfl⟩
      exact ⟨m, declared, others, rfl, hd, ho, rfl⟩
    · rintro ⟨_, declared, others, hv, hd, ho, rfl⟩
      obtain rfl := Value.record.inj hv
      exact ⟨declared, hd, others, ho, rfl⟩
  | _ => simp

theorem walk_refined_ok {t : Schema} {cs : List Constraint} : walk e (.refined t cs) v = .ok o ↔
    walk e t v = .ok o ∧ ∀ c ∈ cs, c.predicate.eval o = true := by
  rw [walk_refined, Outcome.bind_eq_ok]
  constructor
  · rintro ⟨o', hw, hc⟩
    split at hc
    · simp at hc
    · rename_i hnone
      obtain rfl : o' = o := by simpa [pure, Except.pure] using hc
      exact ⟨hw, broken?_eq_none.1 hnone⟩
  · rintro ⟨hw, hcs⟩
    exact ⟨o, hw, by rw [broken?_eq_none.2 hcs]; rfl⟩

end Walk

end Conform.Validate
