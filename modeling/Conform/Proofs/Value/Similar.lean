import Conform.Proofs.Validate.Calls
import Conform.Proofs.Validate.Origin
import Mathlib.Data.List.Perm.Basic

/-!
# Values that differ in the order of keys

* `Value.Similar v v'`: the values differ at most in the order of the keys of records, at any depth;
* `Similar.ind`: induction along similar values, with what is inside related in pairs;
* `Similar.symm`, `Similar.depth`, `Similar.distinct`, `find?_similar`: similar values have the same
  depth, repeat no name if one of them does not, and then have similar values under every key;
* `same_of_similar`: equality of values does not see the order of keys.
-/

namespace Conform

namespace Value

open Entries (keys Paired)

mutual

/-- The values differ at most in the order of the keys of records, at any depth. -/
inductive Similar : Value → Value → Prop
  | same {v} : Similar v v
  | list {xs ys} (h : List.Forall₂ Similar xs ys) : Similar (.list xs) (.list ys)
  | record {m p m'} (hp : m.Perm p) (h : List.Forall₂ SimilarField p m') :
    Similar (.record m) (.record m')

/-- The fields have one name and similar values. -/
inductive SimilarField : String × Value → String × Value → Prop
  | field {k v v'} (h : Similar v v') : SimilarField (k, v) (k, v')

end

section Similar

variable {v v' w : Value} {xs : List Value} {m m' : List (String × Value)}

theorem similarField_iff {e e' : String × Value} : SimilarField e e' ↔ Paired Similar e e' := by
  constructor
  · rintro ⟨h⟩
    exact ⟨rfl, h⟩
  · obtain ⟨k, v⟩ := e
    obtain ⟨k', v'⟩ := e'
    rintro ⟨rfl, h⟩
    exact .field h

theorem similar_record {p : List (String × Value)} (hp : m.Perm p)
    (h : List.Forall₂ (Paired Similar) p m') : Similar (.record m) (.record m') :=
  .record hp (h.imp fun _ _ => similarField_iff.2)

/-! ## Taking similar values apart -/

theorem Similar.list_left (h : Similar (.list xs) w) :
    ∃ ys, w = .list ys ∧ List.Forall₂ Similar xs ys := by
  cases h with
  | same => exact ⟨xs, rfl, List.forall₂_same.2 fun _ _ => .same⟩
  | list h => exact ⟨_, rfl, h⟩

theorem Similar.record_left (h : Similar (.record m) w) :
    ∃ p m', w = .record m' ∧ m.Perm p ∧ List.Forall₂ (Paired Similar) p m' := by
  cases h with
  | same => exact ⟨m, m, rfl, .refl m, List.forall₂_same.2 fun _ _ => ⟨rfl, .same⟩⟩
  | record hp h => exact ⟨_, _, rfl, hp, h.imp fun _ _ => similarField_iff.1⟩

/-- A value without keys is similar to itself only. -/
theorem Similar.eq_of_kind (h : Similar v w) (hk : Kind.of v ≠ .any) : w = v := by
  cases h with
  | same => rfl
  | list h => exact absurd rfl hk
  | record hp h => exact absurd rfl hk

/-- **Induction along similar values.** -/
theorem Similar.ind {P : ∀ v v', Similar v v' → Prop} (same : ∀ v, P v v .same)
    (list : ∀ {xs ys} (h : List.Forall₂ Similar xs ys),
      List.Forall₂ (fun x y => ∃ hxy, P x y hxy) xs ys → P (.list xs) (.list ys) (.list h))
    (record : ∀ {m p m'} (hp : m.Perm p) (h : List.Forall₂ SimilarField p m'),
      List.Forall₂ (Paired fun x y => ∃ hxy, P x y hxy) p m' →
      P (.record m) (.record m') (.record hp h))
    (h : Similar v v') : P v v' h := by
  induction hd : v.depth using Nat.strong_induction_on generalizing v v' with
  | _ d ih =>
    subst hd
    cases h with
    | same => exact same v
    | list h =>
      refine list h (Validate.forall₂_imp_of_mem h fun x hx y _ hxy => ⟨hxy, ?_⟩)
      exact ih _ (depth_item hx) hxy rfl
    | record hp h =>
      refine record hp h (Validate.forall₂_imp_of_mem h fun e he e' _ hee => ?_)
      obtain ⟨hname, hxy⟩ := similarField_iff.1 hee
      exact ⟨hname, hxy, ih _ (depth_entry (hp.mem_iff.2 he)) hxy rfl⟩

theorem Similar.symm (h : Similar v v') : Similar v' v := by
  induction h using Similar.ind with
  | same v => exact .same
  | list _ ih => exact .list (List.Forall₂.flip (ih.imp fun _ _ ⟨_, hyx⟩ => hyx))
  | @record m p m' hp _ ih =>
    -- the fields are paired off first, then put in order
    have hback : List.Forall₂ (Paired Similar) m' p :=
      List.Forall₂.flip (ih.imp fun _ _ ⟨hname, _, hyx⟩ => ⟨hname.symm, hyx⟩)
    have hcomp : Relation.Comp (List.Forall₂ (Paired Similar)) List.Perm m' m := ⟨p, hback, hp.symm⟩
    rw [List.forall₂_comp_perm_eq_perm_comp_forall₂] at hcomp
    obtain ⟨q, hq, hall⟩ := hcomp
    exact similar_record hq hall

/-! ## What does not depend on the order of keys -/

theorem depthItems_le {d : Nat} : depthItems xs ≤ d ↔ ∀ x ∈ xs, x.depth ≤ d := by
  induction xs with
  | nil => simp [depthItems]
  | cons x xs ih => simp [depthItems, ih]

theorem depthFields_le {d : Nat} : depthFields m ≤ d ↔ ∀ e ∈ m, e.2.depth ≤ d := by
  induction m with
  | nil => simp [depthFields]
  | cons e m ih => simp [depthFields, ih]

theorem Similar.depth_le (h : Similar v v') : v'.depth ≤ v.depth := by
  induction h using Similar.ind with
  | same v => exact Nat.le_refl _
  | @list xs ys _ ih =>
    rw [depth, depth]
    refine Nat.add_le_add_left (depthItems_le.2 fun y hy => ?_) 1
    obtain ⟨x, hx, -, hle⟩ := Validate.exists_of_mem_right ih hy
    exact Nat.le_trans hle (depthItems_le.1 (Nat.le_refl _) x hx)
  | @record m p m' hp _ ih =>
    rw [depth, depth]
    refine Nat.add_le_add_left (depthFields_le.2 fun e' he' => ?_) 1
    obtain ⟨e, he, -, -, hle⟩ := Validate.exists_of_mem_right ih he'
    exact Nat.le_trans hle (depthFields_le.1 (Nat.le_refl _) e (hp.mem_iff.2 he))

theorem Similar.depth (h : Similar v v') : v'.depth = v.depth :=
  Nat.le_antisymm h.depth_le h.symm.depth_le

theorem distinct_list : Distinct (.list xs) ↔ ∀ x ∈ xs, x.Distinct := by
  constructor
  · intro h x hx p m hp
    obtain ⟨i, hi⟩ := List.mem_iff_getElem?.1 hx
    exact h (.index i :: p) m (.item hi hp)
  · intro h p m hp
    cases hp with
    | item hv hp => exact h _ (List.mem_of_getElem? hv) _ m hp

theorem distinct_record :
    Distinct (.record m) ↔ (keys m).Nodup ∧ ∀ e ∈ m, e.2.Distinct := by
  constructor
  · intro h
    refine ⟨h [] m .here, fun e he p m' hp => ?_⟩
    exact h (.field e.1 :: p) m' (.field he hp)
  · rintro ⟨hm, h⟩ p m' hp
    cases hp with
    | here => exact hm
    | field hv hp => exact h _ hv _ m' hp

theorem distinct_of_kind (h : Kind.of v ≠ .any) : v.Distinct := by
  intro p m hp
  cases hp with
  | here => exact absurd rfl h
  | item _ _ => exact absurd rfl h
  | field _ _ => exact absurd rfl h

theorem nodup_keys_of_similar {p : List (String × Value)} {Q : Value → Value → Prop}
    (hp : m.Perm p) (h : List.Forall₂ (Paired Q) p m') (hm : (keys m).Nodup) : (keys m').Nodup := by
  rw [Entries.keys_paired h]
  exact (hp.map _).nodup_iff.1 hm

/-- Of similar values, one repeats a name if the other does. -/
theorem Similar.distinct (h : Similar v v') (hv : v.Distinct) : v'.Distinct := by
  induction h using Similar.ind with
  | same v => exact hv
  | list _ ih =>
    refine distinct_list.2 fun y hy => ?_
    obtain ⟨x, hx, -, hxy⟩ := Validate.exists_of_mem_right ih hy
    exact hxy (distinct_list.1 hv x hx)
  | @record m p m' hp _ ih =>
    obtain ⟨hm, hv⟩ := distinct_record.1 hv
    refine distinct_record.2 ⟨nodup_keys_of_similar hp ih hm, fun e' he' => ?_⟩
    obtain ⟨e, he, -, -, hee⟩ := Validate.exists_of_mem_right ih he'
    exact hee (hv e (hp.mem_iff.2 he))

/-- A key stands for similar values, or for none, in records that repeat no name. -/
theorem find?_similar {p : List (String × Value)} (hp : m.Perm p)
    (h : List.Forall₂ (Paired Similar) p m') (hm : (keys m).Nodup) (k : String) :
    (Entries.find? k m = none ∧ Entries.find? k m' = none) ∨
    ∃ a a', Entries.find? k m = some a ∧ Entries.find? k m' = some a' ∧ Similar a a' := by
  rw [← Entries.find?_perm hp hm k]
  exact Entries.find?_paired h k

/-! ## Readings of similar values -/

theorem Similar.isNull (h : Similar v v') : v'.isNull = v.isNull := by
  cases h <;> rfl

theorem Similar.int? (h : Similar v v') : v'.int? = v.int? := by
  cases h <;> rfl

theorem Similar.str? (h : Similar v v') : v'.str? = v.str? := by
  cases h <;> rfl

theorem Similar.compare? (h : Similar v v') (b : Value) : v'.compare? b = v.compare? b := by
  cases h with
  | same => rfl
  | list h => simp [Value.compare?]
  | record hp h => simp [Value.compare?]

theorem Similar.length? (h : Similar v v') : v'.length? = v.length? := by
  cases h with
  | same => rfl
  | list h => exact congrArg some h.length_eq.symm
  | record hp h => exact congrArg some (hp.length_eq.trans h.length_eq).symm

theorem sameItems_iff {ys : List Value} :
    sameItems xs ys = true ↔ List.Forall₂ (fun x y => x.same y = true) xs ys := by
  induction xs generalizing ys with
  | nil => cases ys <;> simp [sameItems]
  | cons x xs ih => cases ys <;> simp [sameItems, ih]

theorem sameFields_iff : sameFields m m' = true ↔
    ∀ e ∈ m, ∃ b, Entries.find? e.1 m' = some b ∧ e.2.same b = true := by
  induction m with
  | nil => simp [sameFields]
  | cons e m ih =>
    rw [sameFields, Bool.and_eq_true, ih, List.forall_mem_cons]
    cases Entries.find? e.1 m' <;> simp

/-- **Equality does not see the order of keys.** -/
theorem same_of_similar (h : Similar v v') : ∀ b, v.same b = true → v'.same b = true := by
  induction h using Similar.ind with
  | same v => exact fun _ hb => hb
  | @list xs ys hall ih =>
    intro b hb
    cases b with
    | list bs =>
      rw [same, sameItems_iff] at hb ⊢
      clear hall
      induction ih generalizing bs with
      | nil => exact hb
      | cons hxy _ ihs =>
        cases hb with
        | cons hx hxs => exact .cons (hxy.2 _ hx) (ihs _ hxs)
    | _ => simp [same] at hb
  | @record m p m' hp h ih =>
    intro b hb
    cases b with
    | record mb =>
      rw [same, Bool.and_eq_true, sameFields_iff] at hb ⊢
      obtain ⟨hlength, hfields⟩ := hb
      refine ⟨?_, fun e' he' => ?_⟩
      · rw [← h.length_eq, ← hp.length_eq]
        exact hlength
      · obtain ⟨e, he, hname, -, hee⟩ := Validate.exists_of_mem_right ih he'
        obtain ⟨b, hb, hsame⟩ := hfields e (hp.mem_iff.2 he)
        exact ⟨b, hname ▸ hb, hee b hsame⟩
    | _ => simp [same] at hb

end Similar

end Value

end Conform
