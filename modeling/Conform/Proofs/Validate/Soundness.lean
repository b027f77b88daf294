import Conform.Proofs.Coerce
import Conform.Proofs.Validate.Enough
import Conform.Proofs.Validate.Parts

/-!
# A validated value has its type

`Conforms s t o` says, without a word about coercion or validation, that the value `o` is of the type
`t`, whose names mean what they mean in the scope `s`. The main statement is `conforms_of_validate`:
what validation returns conforms to the type, whatever the input was.
-/

namespace Conform

open Entries (keys)

/-- The value is of the type, in the scope. -/
inductive Conforms : Scope → Schema → Value → Prop
  | primitive {s k o} (hk : k.Holds o) : Conforms s (.primitive k) o
  | literal {s ms m o} (hm : m ∈ ms) (hsame : o.same m = true) : Conforms s (.literal ms) o
  | null {s t} : Conforms s (.nullable t) .null
  | nullable {s t o} (ho : Conforms s t o) : Conforms s (.nullable t) o
  | union {s ts t o} (ht : t ∈ ts) (ho : Conforms s t o) : Conforms s (.union ts) o
  | array {s t os} (hos : ∀ o ∈ os, Conforms s t o) : Conforms s (.array t) (.list os)
  /-- The declared fields that are there come first, in the order of declaration, and no required one
  is missing; other keys follow only where the extras have a type. -/
  | record {s fs ex} (declared others : List (String × Value))
      (order : (keys declared).Sublist (fs.map (·.name)))
      (required : ∀ f ∈ fs, f.required = true → f.name ∈ keys declared)
      (fields : ∀ f ∈ fs, ∀ o, (f.name, o) ∈ declared → Conforms s f.type o)
      (kept : others ≠ [] → ∃ t, ex = .typed t)
      (undeclared : ∀ e ∈ others, e.1 ∉ fs.map (·.name))
      (distinct : (keys others).Nodup)
      (extras : ∀ t, ex = .typed t → ∀ e ∈ others, Conforms s t e.2) :
      Conforms s (.record fs ex) (.record (declared ++ others))
  | refined {s t cs o} (ho : Conforms s t o) (hcs : ∀ c ∈ cs, c.predicate.eval o = true) :
    Conforms s (.refined t cs) o
  | ref {s n t h o} (hr : s.resolve n = some (t, h)) (ho : Conforms h t o) : Conforms s (.ref n) o

namespace Validate

/-- A record whose parts conform is put together to a record that conforms. -/
theorem conforms_record {s : Scope} {fs : List (Field Schema)} {ex : Extras Schema}
    {m declared others : List (String × Value)} {e : String → Value → Except Failure Value}
    (hfs : (fs.map (·.name)).Nodup) (hd : walkFields e m fs = .ok declared)
    (ho : walkExtras e (undeclared fs m) ex = .ok others)
    (field : ∀ f ∈ fs, ∀ v o, Entries.find? f.name m = some v → walk e f.type v = .ok o →
      Conforms s f.type o)
    (extra : ∀ t, ex = .typed t → ∀ en ∈ undeclared fs m, ∀ o, walk e t en.2 = .ok o →
      Conforms s t o) :
    Conforms s (.record fs ex) (.record (Entries.settle (declared ++ others))) := by
  obtain ⟨hnone, htyped⟩ := walkExtras_eq_ok ho
  rw [settle_record hfs hd ho]
  refine .record declared (Entries.settle others) ?_ ?_ ?_ ?_ ?_ ?_ ?_
  · exact keys_sublist_of_walkFields hd
  · intro f hf hreq
    exact (mem_keys_of_walkFields hd hf).2 ((walkFields_eq_ok.1 hd).1 f hf hreq)
  · intro f hf o hmem
    obtain ⟨v, hv, hw⟩ := field_of_walkFields hfs hd hf hmem
    exact field f hf v o hv hw
  · intro hne
    by_contra hex
    refine hne ?_
    rw [hnone fun t ht => hex ⟨t, ht⟩]
    rfl
  · intro en hen
    exact notMem_of_walkExtras ho (Entries.mem_keys_of_mem (Entries.mem_of_mem_settle hen))
  · exact Entries.nodup_keys_settle others
  · intro t ht en hen
    obtain ⟨en', hen', -, hw⟩ := exists_of_mem_right (htyped t ht) (Entries.mem_of_mem_settle hen)
    exact extra t ht en' hen' en.2 hw

/-- What a legal call returns conforms to the type of the call. The induction is along the calls. -/
theorem conforms_of_ok {c : Call} (hc : c.Legal) :
    ∀ o, walk (ask c.scope) c.type c.value = .ok o → Conforms c.scope c.type o := by
  induction hc using Call.Legal.ind with
  | _ c hc ih =>
    obtain ⟨s, t, v⟩ := c
    intro o ho
    cases t with
    | primitive k => exact .primitive (Coerce.holds_of_ok (walk_primitive_ok.1 ho))
    | literal ms =>
      obtain ⟨m, hm, hpick⟩ := List.exists_of_findSome?_eq_some (walk_literal_ok.1 ho)
      exact .literal hm (pick_eq_some.1 hpick).2
    | nullable t =>
      rcases walk_nullable_ok.1 ho with ⟨-, rfl⟩ | ⟨hv, ho⟩
      · exact .null
      · exact .nullable (ih _ (.nullable hv) o ho)
    | union ts =>
      obtain ⟨t, ht, ho⟩ := List.exists_of_findSome?_eq_some (walk_union_ok.1 ho)
      exact .union ht (ih _ (.branch ht) o (Outcome.toOption_eq_some.1 ho))
    | array t =>
      obtain ⟨xs, os, rfl, rfl, hall⟩ := walk_array_ok.1 ho
      refine .array fun p hp => ?_
      obtain ⟨u, hu, hup⟩ := exists_of_mem_right hall hp
      exact ih _ (.item hu) p hup
    | record fs ex =>
      obtain ⟨m, declared, others, rfl, hd, hx, rfl⟩ := walk_record_ok.1 ho
      refine conforms_record hc.admits.names_nodup hd hx ?_ ?_
      · intro f hf u p hu hp
        exact ih _ (.field hf hu) p hp
      · rintro t rfl en hen p hp
        exact ih _ (.extra hen) p hp
    | refined t cs =>
      obtain ⟨ho, hcs⟩ := walk_refined_ok.1 ho
      exact .refined (ih _ .base o ho) hcs
    | ref n =>
      obtain ⟨t, h, hr⟩ := hc.target
      exact .ref hr (ih _ (.target hr) o (walk_ref hc.built hr v ▸ ho))

/-- **A validated value has its type.** For every type in reach of a built scope and every input, a
value that validation returns conforms to the type. -/
theorem conforms_of_validate {s : Scope} (hs : s.Built) {h : Scope} {t : Schema}
    (ht : s.Reaches h t) {v o : Value} (ho : validateIn h t v = .ok o) : Conforms h t o := by
  obtain ⟨hh, hadmits⟩ := ht.admits hs
  rw [validateIn_eq_walk hh hadmits] at ho
  exact conforms_of_ok (c := ⟨h, t, v⟩) ⟨hh, hadmits⟩ o ho

/-- A walk through a tree, whose fields come in another order and whose leaf is written as a text. -/
theorem conforms_of_validate_park :
    Builder.park.scope.Built ∧ Builder.park.scope.Reaches Builder.park.scope (.ref "Walk") ∧
    validateIn Builder.park.scope (.ref "Walk")
        (.list [.record [("kids", .list [.record []]), ("leaf", .str "7")], .str "oak"]) =
      .ok (.list [.record [("leaf", .int 7), ("kids", .list [.record []])], .str "oak"]) ∧
    Conforms Builder.park.scope (.ref "Walk")
      (.list [.record [("leaf", .int 7), ("kids", .list [.record []])], .str "oak"]) := by
  have hn : Builder.park.scope.Reaches Builder.park.scope (.ref "Walk") := .name rfl
  exact ⟨Builder.park_built, hn, rfl, conforms_of_validate Builder.park_built hn
    (v := .list [.record [("kids", .list [.record []]), ("leaf", .str "7")], .str "oak"]) rfl⟩

end Validate

end Conform
