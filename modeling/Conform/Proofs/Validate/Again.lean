import Conform.Proofs.Validate.Enough
import Conform.Proofs.Validate.Origin

/-!
# Handing outputs back

An output is changed by a map `g` and validated again; when does the output come out once more? The
map is to go through lists and records, and inputs with a property `P` are to consist of such
inputs: `Handed P g`. Then it is enough that primitive types, literal types and unions give an
output again.

* `findSome?_again`: the first match for the input is the first match for what is handed back;
* `walk_record_again`: the fields of an output are found in their order;
* `walk_handed`: the main statement, for all types in reach of a scope.
-/

namespace Conform

open Entries (keys mapValues)

/-- The types that choose what to make of a value; all others hand it, or what it holds, to their
parts. -/
def Schema.Chooses : Schema → Prop
  | .primitive _ => True
  | .literal _ => True
  | .union _ => True
  | _ => False

namespace Validate

/-! ## The first match -/

/-- The first match `o` for the input is the first match for `o'`, when an alternative in front that
takes `o'` takes the input. -/
theorem findSome?_again {α β : Type} {g : β → α → Option β} {R : α → α → Prop} {l : List α}
    {v o o' : β} (h : l.findSome? (g v) = some o) (hl : l.Pairwise R)
    (hself : ∀ a ∈ l, g v a = some o → g o' a = some o)
    (hfront : ∀ a ∈ l, ∀ b ∈ l, ∀ p, R a b → g v b = some o → g o' a = some p → (g v a).isSome) :
    l.findSome? (g o') = some o := by
  obtain ⟨front, b, back, rfl, hb, hnone⟩ := List.findSome?_eq_some_iff.1 h
  have hmem : b ∈ front ++ b :: back := by simp
  refine List.findSome?_eq_some_iff.2 ⟨front, b, back, rfl, hself b hmem hb, fun a ha => ?_⟩
  by_contra hne
  obtain ⟨p, hp⟩ := Option.ne_none_iff_exists'.1 hne
  have hab : R a b := (List.pairwise_append.1 hl).2.2 a ha b List.mem_cons_self
  have := hfront a (List.mem_append_left _ ha) b hmem p hab hb hp
  simp [hnone a ha] at this

/-! ## Records -/

section Records

variable {e : String → Value → Except Failure Value} {fs : List (Field Schema)} {ex : Extras Schema}
  {m declared others : List (String × Value)} {g : Value → Value}

/-- The declared fields of an output are found again, whatever other entries follow them. -/
theorem walkFields_again (hd : walkFields e m fs = .ok declared)
    (hothers : ∀ k ∈ keys others, k ∉ fs.map (·.name)) (hnodup : (keys (declared ++ others)).Nodup)
    (field : ∀ f ∈ fs, ∀ v o, Entries.find? f.name m = some v → walk e f.type v = .ok o →
      walk e f.type (g o) = .ok o) :
    walkFields e (mapValues g (declared ++ others)) fs = .ok declared := by
  obtain ⟨hreq, hall⟩ := walkFields_eq_ok.1 hd
  -- the fields that are there are the same for the input and for the output
  have hmem : ∀ f ∈ fs, f.name ∈ keys (mapValues g (declared ++ others)) ↔ f.name ∈ keys m := by
    intro f hf
    have hnot : f.name ∉ keys others := fun h => hothers _ h (List.mem_map_of_mem hf)
    rw [Entries.keys_mapValues, Entries.keys_append, List.mem_append, mem_keys_of_walkFields hd hf]
    simp [hnot]
  refine walkFields_eq_ok.2 ⟨fun f hf hr => (hmem f hf).2 (hreq f hf hr), ?_⟩
  rw [List.filter_congr fun f hf => decide_eq_decide.2 (hmem f hf)]
  refine forall₂_imp_of_mem hall ?_
  rintro f hf ⟨k, o⟩ ho ⟨rfl, v, hv, hw⟩
  refine ⟨rfl, g o, Entries.find?_of_mem ?_ ?_, field f (List.mem_of_mem_filter hf) v o hv hw⟩
  · rwa [Entries.keys_mapValues]
  · exact Entries.mem_mapValues.2 ⟨_, List.mem_append_left _ ho, rfl⟩

/-- The entries of an output that no field declares are those behind the declared ones. -/
theorem undeclared_again (hd : walkFields e m fs = .ok declared)
    (hothers : ∀ k ∈ keys others, k ∉ fs.map (·.name)) :
    undeclared fs (mapValues g (declared ++ others)) = mapValues g others := by
  have hfront : undeclared fs (mapValues g declared) = [] := by
    refine List.eq_nil_iff_forall_not_mem.2 fun en hen => ?_
    obtain ⟨hmem, hname⟩ := mem_undeclared.1 hen
    refine hname ((keys_sublist_of_walkFields hd).subset ?_)
    simpa using Entries.mem_keys_of_mem hmem
  have hback : undeclared fs (mapValues g others) = mapValues g others := by
    refine List.filter_eq_self.2 fun en hen => ?_
    simpa using hothers en.1 (by simpa using Entries.mem_keys_of_mem hen)
  rw [Entries.mapValues_append, undeclared, List.filter_append]
  exact (congrArg₂ (· ++ ·) hfront hback).trans (List.nil_append _)

/-- The extras of an output come out again. -/
theorem walkExtras_again (ho : walkExtras e (undeclared fs m) ex = .ok others)
    (extra : ∀ t, ex = .typed t → ∀ en ∈ undeclared fs m, ∀ o, walk e t en.2 = .ok o →
      walk e t (g o) = .ok o) :
    walkExtras e (mapValues g (Entries.settle others)) ex = .ok (Entries.settle others) := by
  obtain ⟨hnone, htyped⟩ := walkExtras_eq_ok ho
  cases ex with
  | closed =>
    rw [hnone (by simp)]
    rfl
  | ignored =>
    rw [hnone (by simp)]
    rfl
  | typed t =>
    rw [walkExtras_typed, entries_eq_ok, mapValues, List.forall₂_map_left_iff, List.forall₂_same]
    intro o hmem
    obtain ⟨en, hen, -, hw⟩ := exists_of_mem_right (htyped t rfl) (Entries.mem_of_mem_settle hmem)
    exact ⟨rfl, extra t rfl en hen o.2 hw⟩

/-- A record that is handed back is put together again. -/
theorem walk_record_again (hfs : (fs.map (·.name)).Nodup) (hd : walkFields e m fs = .ok declared)
    (ho : walkExtras e (undeclared fs m) ex = .ok others)
    (field : ∀ f ∈ fs, ∀ v o, Entries.find? f.name m = some v → walk e f.type v = .ok o →
      walk e f.type (g o) = .ok o)
    (extra : ∀ t, ex = .typed t → ∀ en ∈ undeclared fs m, ∀ o, walk e t en.2 = .ok o →
      walk e t (g o) = .ok o) :
    walk e (.record fs ex) (.record (mapValues g (Entries.settle (declared ++ others)))) =
      .ok (.record (Entries.settle (declared ++ others))) := by
  have hnodup := Entries.nodup_keys_settle (declared ++ others)
  rw [settle_record hfs hd ho] at hnodup ⊢
  have hothers : ∀ k ∈ keys (Entries.settle others), k ∉ fs.map (·.name) := by
    intro k hk
    obtain ⟨en, hen, rfl⟩ := List.mem_map.1 hk
    exact notMem_of_walkExtras ho (Entries.mem_keys_of_mem (Entries.mem_of_mem_settle hen))
  refine walk_record_ok.2 ⟨_, declared, Entries.settle others, rfl, ?_, ?_, ?_⟩
  · exact walkFields_again hd hothers hnodup field
  · rw [undeclared_again hd hothers]
    exact walkExtras_again ho extra
  · rw [Entries.settle_of_nodup hnodup]

end Records

/-! ## All types -/

/-- Inputs have the property `P`, and outputs are changed by `g` before they are handed back: `P`
passes to what an input holds, and `g` leaves null alone and goes through lists and records. -/
structure Handed (P : Value → Prop) (g : Value → Value) : Prop where
  item : ∀ {xs v}, P (.list xs) → v ∈ xs → P v
  entry : ∀ {m k v}, P (.record m) → (k, v) ∈ m → P v
  null : g .null = .null
  list : ∀ xs, g (.list xs) = .list (xs.map g)
  record : ∀ m, g (.record m) = .record (mapValues g m)

/-- What the scope asks about names is made of what it is asked about. -/
theorem from_of_ask {s : Scope} {n : String} {v o : Value} (h : ask s n v = .ok o) :
    Value.From v o := by
  unfold ask at h
  split at h
  · exact from_of_validateIn h
  · simp at h

/-- **Outputs come out again.** What a legal call returns it returns again for what is handed back,
when the types in reach that choose do. The induction is along the calls of the first walk; the
second one makes its calls with what is handed back. -/
theorem walk_handed {P : Value → Prop} {g : Value → Value} (hg : Handed P g) {s : Scope}
    (choice : ∀ h t, s.Reaches h t → t.Chooses → ∀ v o, P v → walk (ask h) t v = .ok o →
      walk (ask h) t (g o) = .ok o)
    {c : Call} (hc : c.Legal) (hreach : s.Reaches c.scope c.type) :
    P c.value → ∀ o, walk (ask c.scope) c.type c.value = .ok o →
      walk (ask c.scope) c.type (g o) = .ok o := by
  induction hc using Call.Legal.ind with
  | _ c hc ih =>
    have nested : ∀ d, c.Nests d → P d.value → ∀ o, walk (ask d.scope) d.type d.value = .ok o →
        walk (ask d.scope) d.type (g o) = .ok o := fun d hd => ih d hd (hd.reaches hreach)
    have choice := choice _ _ hreach
    obtain ⟨h, t, v⟩ := c
    intro hv o ho
    cases t with
    | primitive k => exact choice trivial v o hv ho
    | literal ms => exact choice trivial v o hv ho
    | union ts => exact choice trivial v o hv ho
    | nullable t =>
      rcases walk_nullable_ok.1 ho with ⟨-, rfl⟩ | ⟨hnull, ho⟩
      · exact walk_nullable_ok.2 (Or.inl ⟨hg.null, rfl⟩)
      · have hagain := nested _ (.nullable hnull) hv o ho
        cases hgo : (g o).isNull with
        | false => exact walk_nullable_ok.2 (Or.inr ⟨hgo, hagain⟩)
        | true =>
          -- nothing but null is made of null
          have hgo : g o = .null := by
            revert hgo
            cases g o <;> simp [Value.isNull]
          have hfrom := (from_of_walk (fun _ _ _ => from_of_ask) t _ o hagain).kept
          exact walk_nullable_ok.2 (Or.inl ⟨hgo, hfrom.null.2 hgo⟩)
    | array t =>
      obtain ⟨xs, os, rfl, rfl, hall⟩ := walk_array_ok.1 ho
      rw [hg.list]
      refine walk_array_ok.2 ⟨os.map g, os, rfl, rfl, ?_⟩
      refine List.forall₂_map_left_iff.2 (List.forall₂_same.2 fun p hp => ?_)
      obtain ⟨u, hu, hup⟩ := exists_of_mem_right hall hp
      exact nested _ (.item hu) (hg.item hv hu) p hup
    | record fs ex =>
      obtain ⟨m, declared, others, rfl, hd, hx, rfl⟩ := walk_record_ok.1 ho
      rw [hg.record]
      refine walk_record_again hc.admits.names_nodup hd hx ?_ ?_
      · intro f hf u p hu hp
        exact nested _ (.field hf hu) (hg.entry hv (Entries.mem_of_find? hu)) p hp
      · rintro t rfl en hen p hp
        exact nested _ (.extra hen) (hg.entry hv (mem_of_undeclared hen)) p hp
    | refined t cs =>
      obtain ⟨ho, hcs⟩ := walk_refined_ok.1 ho
      exact walk_refined_ok.2 ⟨nested _ .base hv o ho, hcs⟩
    | ref n =>
      obtain ⟨t, h', hr⟩ := hc.target
      rw [walk_ref hc.built hr] at ho ⊢
      exact nested _ (.target hr) hv o ho

end Validate

end Conform
