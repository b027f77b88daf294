import Conform.Proofs.Coerce
import Conform.Proofs.Validate.Parts
import Conform.Proofs.Scope.Built

/-!
# Where an output comes from

Validation rearranges what it is given and reads texts; it invents nothing.

* `Value.From v o`: the value `o` is made of what `v` holds;
* `Value.At v p a`: the value `a` stands in `v` at the path `p`;
* `From.at`: what stands in `o` at some path is made of what stands in `v` at that path;
* `from_of_walk`: a walk makes its output of its input, if the expansion of names does;
* `from_of_validate`: the main statement, for every type in every scope.
-/

namespace Conform

namespace Value

mutual

/-- The value `o` is made of what `v` holds: it is `v`, or was read from a text, or is a whole number
widened or a date with a time narrowed; a list has items made of the items, place by place, and a
record only fields made of the fields of the same name. -/
inductive From : Value → Value → Prop
  | same {v} : From v v
  | read {s o} (ho : Kind.of o ∈ Kind.readable) : From (.str s) o
  | widened {n} : From (.int n) (.float (widen n))
  | narrowed {d} : From (.dateTime d) (.date d.date)
  | list {xs os} (h : List.Forall₂ From xs os) : From (.list xs) (.list os)
  | record {m os} (h : ∀ k o, (k, o) ∈ os → FromField m k o) : From (.record m) (.record os)

/-- The value `o` is made of a field `k` of the record. -/
inductive FromField : List (String × Value) → String → Value → Prop
  | field {m k v o} (hv : (k, v) ∈ m) (h : From v o) : FromField m k o

end

/-- The value `a` stands in the value at the path. -/
inductive At : Value → Path → Value → Prop
  | here {v} : At v [] v
  | item {xs i v p a} (hv : xs[i]? = some v) (h : At v p a) : At (.list xs) (.index i :: p) a
  | field {m k v p a} (hv : (k, v) ∈ m) (h : At v p a) : At (.record m) (.field k :: p) a

/-- No record in the value has two fields of one name. -/
def Distinct (v : Value) : Prop := ∀ p m, v.At p (.record m) → (Entries.keys m).Nodup

/-- What a validation leaves alone: a text of the output was that text, and a truth value or a whole
number was that very value or a text; a list keeps its length; and null is null. -/
structure Kept (v o : Value) : Prop where
  text : ∀ s, o = .str s → v = .str s
  truth : ∀ b, o = .bool b → v = .bool b ∨ ∃ s, v = .str s
  whole : ∀ n, o = .int n → v = .int n ∨ ∃ s, v = .str s
  length : o.items?.map List.length = v.items?.map List.length
  null : o = .null ↔ v = .null

/-! ## Positions -/

section At

theorem exists_of_getElem?_right {α β : Type} {R : α → β → Prop} {l : List α} {l' : List β}
    (h : List.Forall₂ R l l') {i : Nat} {b : β} (hb : l'[i]? = some b) :
    ∃ a, l[i]? = some a ∧ R a b := by
  induction h generalizing i with
  | nil => simp at hb
  | @cons a c l l' hr _ ih =>
    cases i with
    | zero =>
      obtain rfl : c = b := by simpa using hb
      exact ⟨a, rfl, hr⟩
    | succ i => exact ih (by simpa using hb)

variable {v o a b : Value} {p : Path}

/-- What stands in a part of a value stands in the value. -/
theorem At.append {q : Path} (ha : v.At p a) (hb : a.At q b) : v.At (p ++ q) b := by
  induction ha with
  | here => exact hb
  | item hx _ ih => exact .item hx (ih hb)
  | field hx _ ih => exact .field hx (ih hb)

/-- A value without repeated names has at most one value at a path. -/
theorem Distinct.at_unique (hv : v.Distinct) (ha : v.At p a) (hb : v.At p b) : a = b := by
  induction ha with
  | here =>
    cases hb
    rfl
  | @item xs i x p a hx _ ih =>
    cases hb with
    | item hx' hb =>
      obtain rfl := Option.some.inj (hx.symm.trans hx')
      exact ih (fun q m hq => hv (.index i :: q) m (.item hx hq)) hb
  | @field m k x p a hx _ ih =>
    cases hb with
    | field hx' hb =>
      have hm : (Entries.keys m).Nodup := hv [] m .here
      obtain rfl := Option.some.inj
        ((Entries.find?_of_mem hm hx).symm.trans (Entries.find?_of_mem hm hx'))
      exact ih (fun q m' hq => hv (.field k :: q) m' (.field hx hq)) hb

/-- Every part of the output is made of the part of the input at the same path. -/
theorem From.at (h : From v o) (hb : o.At p b) : ∃ a, v.At p a ∧ From a b := by
  induction hb generalizing v with
  | here => exact ⟨v, .here, h⟩
  | @item os i o p b ho hb ih =>
    cases h with
    | same => exact ⟨b, .item ho hb, .same⟩
    | read hk => simp [Kind.of, Kind.readable] at hk
    | @list xs _ hall =>
      obtain ⟨x, hx, hfrom⟩ := exists_of_getElem?_right hall ho
      obtain ⟨a, ha, hab⟩ := ih hfrom
      exact ⟨a, .item hx ha, hab⟩
  | @field os k o p b ho hb ih =>
    cases h with
    | same => exact ⟨b, .field ho hb, .same⟩
    | read hk => simp [Kind.of, Kind.readable] at hk
    | record hall =>
      obtain ⟨hx, hfrom⟩ := hall k o ho
      obtain ⟨a, ha, hab⟩ := ih hfrom
      exact ⟨a, .field hx ha, hab⟩

/-- What is made of a value keeps it, up to reading, widening and narrowing. -/
theorem From.kept (h : From v o) : Kept v o := by
  cases h with
  | same => exact ⟨fun _ h => h, fun _ h => Or.inl h, fun _ h => Or.inl h, rfl, Iff.rfl⟩
  | @read s o ho =>
    refine ⟨?_, fun _ _ => Or.inr ⟨s, rfl⟩, fun _ _ => Or.inr ⟨s, rfl⟩, ?_, ?_⟩
    · rintro t rfl
      simp [Kind.of, Kind.readable] at ho
    · cases o <;> simp_all [Kind.of, Kind.readable, items?]
    · constructor
      · rintro rfl
        simp [Kind.of, Kind.readable] at ho
      · simp
  | widened => exact ⟨by simp, by simp, by simp, rfl, by simp⟩
  | narrowed => exact ⟨by simp, by simp, by simp, rfl, by simp⟩
  | list hall => exact ⟨by simp, by simp, by simp, by simp [items?, hall.length_eq], by simp⟩
  | record _ => exact ⟨by simp, by simp, by simp, rfl, by simp⟩

end At

end Value

/-! ## Walks -/

namespace Validate

variable {e : String → Value → Except Failure Value} {v o : Value}

theorem from_of_coerce {k : Kind} (h : coerce k v = .ok o) : Value.From v o := by
  rcases Coerce.coerce_cases h with
    ⟨rfl, -⟩ | ⟨⟨s, rfl⟩, rfl, hk⟩ | ⟨n, rfl, -, rfl⟩ | ⟨d, rfl, -, rfl⟩
  · exact .same
  · exact .read hk
  · exact .widened
  · exact .narrowed

/-- The output of a record has the declared fields that were there, and extras that were there. Names
may be declared twice: each entry of the output still comes from an entry of its name. -/
theorem from_of_record {fs : List (Field Schema)} {ex : Extras Schema}
    {m declared others : List (String × Value)} (hd : walkFields e m fs = .ok declared)
    (ho : walkExtras e (undeclared fs m) ex = .ok others)
    (part : ∀ u ∈ (Schema.record fs ex).parts, ∀ v o, walk e u v = .ok o → Value.From v o) :
    Value.From (.record m) (.record (Entries.settle (declared ++ others))) := by
  refine .record fun k o hmem => ?_
  rcases List.mem_append.1 (Entries.mem_of_mem_settle hmem) with hmem | hmem
  · obtain ⟨f, hf, hname, v, hv, hw⟩ := exists_of_mem_right (walkFields_eq_ok.1 hd).2 hmem
    obtain rfl : k = f.name := hname
    exact .field (Entries.mem_of_find? hv)
      (part f.type (Schema.field_mem_parts (List.mem_of_mem_filter hf)) v o hw)
  · obtain ⟨hnone, htyped⟩ := walkExtras_eq_ok ho
    cases ex with
    | typed t =>
      obtain ⟨en, hen, hname, hw⟩ := exists_of_mem_right (htyped t rfl) hmem
      obtain rfl : k = en.1 := hname
      exact .field (mem_undeclared.1 hen).1 (part t Schema.extras_mem_parts en.2 o hw)
    | _ => simp [hnone (by simp)] at hmem

/-- **The step**: a walk makes its output of its input when the expansion of names does. The induction
is on the type. -/
theorem from_of_walk (he : ∀ n v o, e n v = .ok o → Value.From v o) (t : Schema) :
    ∀ v o, walk e t v = .ok o → Value.From v o := by
  induction t using Schema.ind with
  | _ t part =>
    intro v o ho
    cases t with
    | primitive k => exact from_of_coerce (walk_primitive_ok.1 ho)
    | literal ms =>
      obtain ⟨m, -, hpick⟩ := List.exists_of_findSome?_eq_some (walk_literal_ok.1 ho)
      exact from_of_coerce (pick_eq_some.1 hpick).1
    | nullable t =>
      rcases walk_nullable_ok.1 ho with ⟨rfl, rfl⟩ | ⟨-, ho⟩
      · exact .same
      · exact part t (by simp [Schema.parts]) v o ho
    | union ts =>
      obtain ⟨t, ht, ho⟩ := List.exists_of_findSome?_eq_some (walk_union_ok.1 ho)
      exact part t ht v o (Outcome.toOption_eq_some.1 ho)
    | array t =>
      obtain ⟨xs, os, rfl, rfl, hall⟩ := walk_array_ok.1 ho
      exact .list (hall.imp fun u p hup => part t (by simp [Schema.parts]) u p hup)
    | record fs ex =>
      obtain ⟨m, declared, others, rfl, hd, hx, rfl⟩ := walk_record_ok.1 ho
      exact from_of_record hd hx part
    | refined t cs => exact part t (by simp [Schema.parts]) v o (walk_refined_ok.1 ho).1
    | ref n => exact he n v o ho

/-- **The run**: however often names are expanded, the output is made of the input. -/
theorem from_of_follow (fuel : Nat) :
    ∀ (s : Scope) (n : String) (v o : Value), follow fuel s n v = .ok o → Value.From v o := by
  induction fuel with
  | zero =>
    intro s n v o ho
    simp [follow] at ho
  | succ fuel ih =>
    intro s n v o ho
    rw [follow] at ho
    split at ho
    · rename_i t home _
      exact from_of_walk (ih home) t v o ho
    · simp at ho

theorem from_of_validateIn {s : Scope} {t : Schema} (h : validateIn s t v = .ok o) :
    Value.From v o :=
  from_of_walk (from_of_follow _ s) t v o h

/-- **Nothing is invented.** Whatever the type, with names that mean nothing or with those of any
scope, an output is made of the input. Hence at every path where the output has a value the input has
one, and this value is kept but for reading, widening and narrowing; it is the only value of the input
at that path, when no record of the input repeats a name. -/
theorem from_of_validate {t : Schema}
    (h : validate t v = .ok o ∨ ∃ s : Scope, validateIn s t v = .ok o) :
    Value.From v o ∧ ∀ p b, o.At p b →
      ∃ a, v.At p a ∧ Value.Kept a b ∧ (v.Distinct → ∀ a', v.At p a' → a' = a) := by
  have hfrom : Value.From v o := by
    rcases h with h | ⟨s, h⟩
    · exact from_of_walk (by simp) t v o h
    · exact from_of_validateIn h
  refine ⟨hfrom, fun p b hb => ?_⟩
  obtain ⟨a, ha, hab⟩ := hfrom.at hb
  exact ⟨a, ha, hab.kept, fun hv a' ha' => hv.at_unique ha' ha⟩

/-- A tree in a list, whose leaf is written as a text; and a record that declares a field twice, as a
text and as a whole number. -/
theorem from_of_validate_park :
    validateIn Builder.park.scope (.ref "Walk")
        (.list [.record [("kids", .list []), ("leaf", .str "7")], .null]) =
      .ok (.list [.record [("leaf", .int 7), ("kids", .list [])], .null]) ∧
    Value.From (.list [.record [("kids", .list []), ("leaf", .str "7")], .null])
      (.list [.record [("leaf", .int 7), ("kids", .list [])], .null]) ∧
    (∃ a, Value.At (.list [.record [("kids", .list []), ("leaf", .str "7")], .null])
      [.index 0, .field "leaf"] a ∧ Value.Kept a (.int 7)) ∧
    validate (.record [⟨"a", .primitive .string, true⟩, ⟨"a", .primitive .int, true⟩] .closed)
      (.record [("a", .str "1")]) = .ok (.record [("a", .int 1)]) ∧
    Value.From (.record [("a", .str "1")]) (.record [("a", .int 1)]) := by
  obtain ⟨hfrom, hat⟩ := from_of_validate (t := .ref "Walk")
    (v := .list [.record [("kids", .list []), ("leaf", .str "7")], .null])
    (Or.inr ⟨Builder.park.scope, rfl⟩)
  obtain ⟨a, ha, hkept, -⟩ := hat [.index 0, .field "leaf"] (.int 7)
    (.item rfl (.field List.mem_cons_self .here))
  have htwice : validate (.record [⟨"a", .primitive .string, true⟩, ⟨"a", .primitive .int, true⟩]
      .closed) (.record [("a", .str "1")]) = .ok (.record [("a", .int 1)]) := rfl
  exact ⟨rfl, hfrom, ⟨a, ha, hkept⟩, htwice, (from_of_validate (Or.inl htwice)).1⟩

end Validate

end Conform
