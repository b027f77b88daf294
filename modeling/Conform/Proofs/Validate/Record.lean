import Conform.Proofs.Validate.Enough
import Conform.Proofs.Validate.First
import Mathlib.Data.List.Perm.Lattice

/-!
# What becomes of a record

A record is rebuilt in two loops, over the declared fields and over the other keys of the input. The
keys of both loops are apart, and so neither loses, doubles or overwrites an entry of the other.

* `Takes`: when the loops succeed, field by field and key by key;
* `Rebuilt`: which entries they leave, in which order and with which values;
* `walk_record_takes`, `rebuilt_of_walk`: the loops do just this;
* `Rebuilt.perm`: what is kept and what is dropped;
* `record_rebuilt`: the main statement.
-/

namespace Conform.Validate

open Entries (keys)

/-- The value may stand under a key that no field declares. -/
def TakesExtra (run : Schema → Value → Except Failure Value) : Extras Schema → Value → Prop
  | .closed, _ => False
  | .ignored, _ => True
  | .typed t, v => ∃ o, run t v = .ok o

/-- Required fields are there, and all that is there may be there: each declared field is validated on
its own, and other keys are as the extras say. -/
structure Takes (run : Schema → Value → Except Failure Value) (fs : List (Field Schema))
    (ex : Extras Schema) (m : List (String × Value)) : Prop where
  required : ∀ f ∈ fs, f.required = true → f.name ∈ keys m
  fields : ∀ f ∈ fs, ∀ v, (f.name, v) ∈ m → ∃ o, run f.type v = .ok o
  extras : ∀ e ∈ m, e.1 ∉ fs.map (·.name) → TakesExtra run ex e.2

/-- The keys that are kept although no field declares them. -/
def keptKeys (fs : List (Field Schema)) (m : List (String × Value)) : Extras Schema → List String
  | .typed _ => (keys m).filter (· ∉ fs.map (·.name))
  | _ => []

/-- The entries `r` are those of `m`: declared fields in the order of declaration, then the keys that
are kept in the order of `m`, and every value is the one of `m` after validation on its own. -/
structure Rebuilt (run : Schema → Value → Except Failure Value) (fs : List (Field Schema))
    (ex : Extras Schema) (m r : List (String × Value)) : Prop where
  order : keys r = (fs.map (·.name)).filter (· ∈ keys m) ++ keptKeys fs m ex
  declared : ∀ f ∈ fs, ∀ o, (f.name, o) ∈ r → ∃ v, (f.name, v) ∈ m ∧ run f.type v = .ok o
  others : ∀ e ∈ r, e.1 ∉ fs.map (·.name) →
    ∃ t, ex = .typed t ∧ ∃ v, (e.1, v) ∈ m ∧ run t v = .ok e.2

section Keys

variable {fs : List (Field Schema)} {m r : List (String × Value)} {ex : Extras Schema}
  {run : Schema → Value → Except Failure Value}

theorem keys_undeclared (fs : List (Field Schema)) (m : List (String × Value)) :
    keys (undeclared fs m) = (keys m).filter (· ∉ fs.map (·.name)) := by
  rw [undeclared, keys, keys, List.filter_map]
  congr 1
  refine List.filter_congr fun e _ => ?_
  rw [Bool.eq_iff_iff]
  simp

/-- Declared keys of the input, in either order. -/
theorem declared_perm (hfs : (fs.map (·.name)).Nodup) (hm : (keys m).Nodup) :
    ((fs.map (·.name)).filter (· ∈ keys m)).Perm ((keys m).filter (· ∈ fs.map (·.name))) := by
  refine (List.perm_ext_iff_of_nodup (hfs.filter _) (hm.filter _)).2 fun k => ?_
  simp [and_comm]

/-- Where no key is dropped, the keys are those of the input, and else the declared ones. -/
theorem Rebuilt.perm (h : Rebuilt run fs ex m r) (hfs : (fs.map (·.name)).Nodup)
    (hm : (keys m).Nodup) (ht : Takes run fs ex m) :
    (ex ≠ .ignored → (keys r).Perm (keys m)) ∧
    (ex = .ignored → (keys r).Perm ((keys m).filter (· ∈ fs.map (·.name)))) := by
  have hdeclared := declared_perm hfs hm
  have hparts : ((keys m).filter (· ∈ fs.map (·.name)) ++ (keys m).filter (· ∉ fs.map (·.name))).Perm
      (keys m) := by
    simpa only [decide_not] using
      List.filter_append_perm (fun k => decide (k ∈ fs.map (·.name))) (keys m)
  rw [h.order]
  cases ex with
  | closed =>
    refine ⟨fun _ => ?_, by simp⟩
    have hnone : (keys m).filter (· ∉ fs.map (·.name)) = [] := by
      refine List.filter_eq_nil_iff.2 fun k hk hnot => ?_
      obtain ⟨e, he, rfl⟩ := List.mem_map.1 hk
      exact ht.extras e he (by simpa using hnot)
    rw [hnone] at hparts
    exact (hdeclared.append_right _).trans hparts
  | ignored => exact ⟨by simp, fun _ => by simpa [keptKeys] using hdeclared⟩
  | typed t => exact ⟨fun _ => (hdeclared.append_right _).trans hparts, by simp⟩

end Keys

/-! ## When the loops succeed -/

section Loops

variable {e : String → Value → Except Failure Value} {run : Schema → Value → Except Failure Value}
  {fs : List (Field Schema)} {m r : List (String × Value)} {ex : Extras Schema}

theorem not_fieldFails (hm : (keys m).Nodup) {f : Field Schema} :
    (∀ y, ¬ FieldFails run m f y) ↔
      (f.required = true → f.name ∈ keys m) ∧ ∀ v, (f.name, v) ∈ m → ∃ o, run f.type v = .ok o := by
  constructor
  · intro h
    refine ⟨fun hf => by_contra fun hn => h _ (.missing hf hn), fun v hv => ?_⟩
    cases hrun : run f.type v with
    | ok o => exact ⟨o, rfl⟩
    | error y => exact absurd (.value (Entries.find?_of_mem hm hv) hrun) (h _)
  · rintro ⟨hreq, hval⟩ y hy
    cases hy with
    | missing hf hn => exact hn (hreq hf)
    | value hu hy =>
      obtain ⟨o, ho⟩ := hval _ (Entries.mem_of_find? hu)
      cases ho.symm.trans hy

theorem not_extraFails {en : String × Value} :
    (∀ y, ¬ ExtraFails run ex en y) ↔ TakesExtra run ex en.2 := by
  cases ex with
  | closed => exact ⟨fun h => h _ .unknown, False.elim⟩
  | ignored => exact ⟨fun _ => trivial, fun _ y hy => by cases hy⟩
  | typed t =>
    constructor
    · intro h
      cases hrun : run t en.2 with
      | ok o => exact ⟨o, hrun⟩
      | error y => exact absurd (.value hrun) (h _)
    · rintro ⟨o, ho⟩ y hy
      cases hy with
      | value hy => cases ho.symm.trans hy

/-- **When a record is accepted.** -/
theorem walk_record_takes (hm : (keys m).Nodup) :
    (∃ o, walk e (.record fs ex) (.record m) = .ok o) ↔ Takes (walk e) fs ex m := by
  have hboth : (∃ o, walk e (.record fs ex) (.record m) = .ok o) ↔
      (∃ os, walkFields e m fs = .ok os) ∧ ∃ os, walkExtras e (undeclared fs m) ex = .ok os := by
    constructor
    · rintro ⟨o, ho⟩
      obtain ⟨m', declared, others, hv, hd, hx, -⟩ := walk_record_ok.1 ho
      obtain rfl := Value.record.inj hv
      exact ⟨⟨declared, hd⟩, others, hx⟩
    · rintro ⟨⟨declared, hd⟩, others, hx⟩
      exact ⟨_, walk_record_ok.2 ⟨m, declared, others, rfl, hd, hx, rfl⟩⟩
  rw [hboth, exists_walkFields_ok, exists_walkExtras_ok]
  simp only [not_fieldFails hm, not_extraFails, mem_undeclared]
  constructor
  · rintro ⟨hfields, hextras⟩
    exact ⟨fun f hf => (hfields f hf).1, fun f hf => (hfields f hf).2,
      fun en hen hn => hextras en ⟨hen, hn⟩⟩
  · rintro ⟨hreq, hfields, hextras⟩
    exact ⟨fun f hf => ⟨hreq f hf, hfields f hf⟩, fun en hen => hextras en hen.1 hen.2⟩

/-! ## What the loops leave -/

theorem keys_of_walkExtras {others : List (String × Value)}
    (h : walkExtras e (undeclared fs m) ex = .ok others) : keys others = keptKeys fs m ex := by
  obtain ⟨hnone, htyped⟩ := walkExtras_eq_ok h
  cases ex with
  | typed t => exact (keys_of_forall₂ (htyped t rfl)).trans (keys_undeclared fs m)
  | _ =>
    rw [hnone (by simp)]
    rfl

/-- **What a record becomes.** -/
theorem rebuilt_of_walk (hfs : (fs.map (·.name)).Nodup) (hm : (keys m).Nodup) {o : Value}
    (h : walk e (.record fs ex) (.record m) = .ok o) :
    ∃ r, o = .record r ∧ Rebuilt (walk e) fs ex m r := by
  obtain ⟨m', declared, others, hv, hd, hx, rfl⟩ := walk_record_ok.1 h
  obtain rfl := Value.record.inj hv
  obtain ⟨hnone, htyped⟩ := walkExtras_eq_ok hx
  have hkept := keys_of_walkExtras hx
  -- the keys of the extras are distinct because those of the input are, so nothing is put twice
  have hothers : (keys others).Nodup := by
    rw [hkept]
    cases ex with
    | typed t => exact hm.filter _
    | _ => exact List.nodup_nil
  rw [settle_record hfs hd hx, Entries.settle_of_nodup hothers]
  refine ⟨_, rfl, ?_, fun f hf o ho => ?_, fun en hen hn => ?_⟩
  · rw [Entries.keys_append, hkept, keys_of_walkFields hd, List.filter_map]
    rfl
  · rcases List.mem_append.1 ho with ho | ho
    · obtain ⟨v, hv, hw⟩ := field_of_walkFields hfs hd hf ho
      exact ⟨v, Entries.mem_of_find? hv, hw⟩
    · exact absurd (List.mem_map_of_mem hf) (notMem_of_walkExtras hx (Entries.mem_keys_of_mem ho))
  · rcases List.mem_append.1 hen with hen | hen
    · exact absurd ((keys_sublist_of_walkFields hd).subset (Entries.mem_keys_of_mem hen)) hn
    · cases ex with
      | typed t =>
        obtain ⟨⟨k, v⟩, hv, hk, hw⟩ := exists_of_mem_right (htyped t rfl) hen
        obtain rfl : en.1 = k := hk
        exact ⟨t, rfl, v, (mem_undeclared.1 hv).1, hw⟩
      | _ => simp [hnone (by simp)] at hen

end Loops

/-- **A record loses, doubles and reorders nothing it should not.** In a built scope, for a record type
with distinct field names and an input with distinct keys: an output has the declared fields of the
input in the order of declaration and then, only if the extras have a type, the other keys in the order
of the input, and its values are those of the input after validation on their own. So the keys are those
of the input, or if others are ignored its declared ones. And there is an output if all required fields
are there, those that are there are valid, and the other keys are allowed, valid or not there at all.
Without a scope names are those of a scope that binds nothing. -/
theorem record_rebuilt {s : Scope} (hs : s.Built) {fs : List (Field Schema)}
    (hfs : (fs.map (·.name)).Nodup) (ex : Extras Schema) {m : List (String × Value)}
    (hm : (keys m).Nodup) :
    (∀ o, validateIn s (.record fs ex) (.record m) = .ok o → ∃ r, o = .record r ∧
      Rebuilt (validateIn s) fs ex m r ∧
      (ex ≠ .ignored → (keys r).Perm (keys m)) ∧
      (ex = .ignored → (keys r).Perm ((keys m).filter (· ∈ fs.map (·.name))))) ∧
    ((∃ o, validateIn s (.record fs ex) (.record m) = .ok o) ↔ Takes (validateIn s) fs ex m) ∧
    Scope.void.Built ∧ validate = validateIn .void := by
  rw [← walk_ask hs]
  refine ⟨fun o ho => ?_, walk_record_takes hm, Scope.void_built, ?_⟩
  · obtain ⟨r, hr, hrebuilt⟩ := rebuilt_of_walk hfs hm ho
    exact ⟨r, hr, hrebuilt, hrebuilt.perm hfs hm ((walk_record_takes hm).1 ⟨o, ho⟩)⟩
  · exact funext₂ validate_eq_validateIn

/-- A tree that has to have kids, and may have its age. -/
def sapling : List (Field Schema) :=
  [⟨"leaf", .ref "Leaf", false⟩, ⟨"age", .primitive .float, false⟩, ⟨"kids", .array (.ref "Tree"), true⟩]

/-- One without an age, in another order, with two further leaves. -/
def sprout : List (String × Value) :=
  [("top", .str "3"), ("kids", .list [.record []]), ("low", .int 4), ("leaf", .str "7")]

/-- The declared fields of the input go to the front, and the two others stay in their order. -/
theorem record_rebuilt_grove :
    Builder.grove.scope.Built ∧ (sapling.map (·.name)).Nodup ∧ (keys sprout).Nodup ∧
    Takes (validateIn Builder.grove.scope) sapling (.typed (.ref "Leaf")) sprout ∧
    ∃ r, validateIn Builder.grove.scope (.record sapling (.typed (.ref "Leaf"))) (.record sprout) =
        .ok (.record r) ∧
      Rebuilt (validateIn Builder.grove.scope) sapling (.typed (.ref "Leaf")) sprout r ∧
      keys r = ["leaf", "kids", "top", "low"] ∧ (keys r).Perm (keys sprout) := by
  have hfs : (sapling.map (·.name)).Nodup := by decide
  have hm : (keys sprout).Nodup := by decide
  obtain ⟨hrebuilt, htakes, -⟩ := record_rebuilt Builder.grove_built hfs (.typed (.ref "Leaf")) hm
  obtain ⟨o, ho⟩ : ∃ o, validateIn Builder.grove.scope (.record sapling (.typed (.ref "Leaf")))
      (.record sprout) = .ok o := ⟨_, rfl⟩
  obtain ⟨r, rfl, hr, hperm, -⟩ := hrebuilt o ho
  exact ⟨Builder.grove_built, hfs, hm, htakes.1 ⟨_, ho⟩, r, ho, hr, hr.order.trans (by decide),
    hperm (by simp)⟩

end Conform.Validate
