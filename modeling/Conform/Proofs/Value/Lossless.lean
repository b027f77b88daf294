import Conform.Proofs.Json
import Conform.Proofs.Validate.Calls
import Conform.Proofs.Validate.Origin
import Conform.Proofs.Value.Json

/-!
# What is lost between values and documents

From a value to a document and back, the temporal values are lost, which become texts, and the numbers
that are not finite, which become null. From a document to a value and back, the whole numbers above the
range with a sign are lost, which become binary numbers. Nothing else changes, and each of these losses
can be seen in the result, wherever in the value or the document it happens.

* `Value.Native`: the values that JSON has itself, at the top;
* `Value.plain_iff`: a value stays as it is if all that stands in it is native;
* `Json.reread`: a document, read as a value and written again;
* `Json.reread_eq_iff`, `Json.same_reread_iff`: a document stays as it is, or stays equal, if no whole
  number in it is too large;
* `lossless_exactly`: the main statement.
-/

namespace Conform

open Entries (mapValues)

/-! ## From values to documents and back -/

namespace Value

/-- The value, without what is inside it, is one that JSON has: it is not temporal, and if it is a binary
number, it is finite. -/
def Native : Value → Prop
  | .float x => x.isFinite = true
  | .dateTime _ => False
  | .date _ => False
  | .duration _ => False
  | _ => True

instance : DecidablePred Native := fun v =>
  match v with
  | .float x => inferInstanceAs (Decidable (x.isFinite = true))
  | .dateTime _ | .date _ | .duration _ => inferInstanceAs (Decidable False)
  | .null | .bool _ | .int _ | .str _ | .list _ | .record _ => inferInstanceAs (Decidable True)

section At

variable {P : Value → Prop} {v : Value}

/-- What holds of all that stands in a list holds of the list and of all that stands in its items. -/
theorem forall_at_list {xs : List Value} : (∀ p u, At (.list xs) p u → P u) ↔
    P (.list xs) ∧ ∀ x ∈ xs, ∀ p u, x.At p u → P u := by
  constructor
  · intro h
    refine ⟨h [] _ .here, fun x hx p u hu => ?_⟩
    obtain ⟨i, hi⟩ := List.mem_iff_getElem?.1 hx
    exact h (.index i :: p) u (.item hi hu)
  · rintro ⟨htop, hitems⟩ p u hu
    cases hu with
    | here => exact htop
    | item hx hu => exact hitems _ (List.mem_of_getElem? hx) _ u hu

/-- What holds of all that stands in a record holds of the record and of all that stands in its
fields. -/
theorem forall_at_record {m : List (String × Value)} : (∀ p u, At (.record m) p u → P u) ↔
    P (.record m) ∧ ∀ e ∈ m, ∀ p u, e.2.At p u → P u := by
  constructor
  · intro h
    refine ⟨h [] _ .here, fun e he p u hu => ?_⟩
    exact h (.field e.1 :: p) u (.field he hu)
  · rintro ⟨htop, hfields⟩ p u hu
    cases hu with
    | here => exact htop
    | field hv hu => exact hfields _ hv _ u hu

/-- Only a container has something in it beside itself. -/
theorem forall_at_leaf (hv : Kind.of v ≠ .any) : (∀ p u, v.At p u → P u) ↔ P v := by
  refine ⟨fun h => h [] v .here, fun h p u hu => ?_⟩
  cases hu with
  | here => exact h
  | item _ _ => exact absurd rfl hv
  | field _ _ => exact absurd rfl hv

end At

theorem plain_list {xs : List Value} : Plain (.list xs) ↔ ∀ x ∈ xs, Plain x := by
  refine ⟨fun h x hx => h.item hx, fun h => ?_⟩
  rw [Plain, reread_list, Value.list.injEq]
  exact (List.map_congr_left h).trans (List.map_id xs)

theorem plain_record {m : List (String × Value)} : Plain (.record m) ↔ ∀ e ∈ m, Plain e.2 := by
  refine ⟨fun h e he => h.entry he, fun h => ?_⟩
  rw [Plain, reread_record, Value.record.injEq]
  refine (List.map_congr_left fun e he => ?_).trans (List.map_id m)
  rw [h e he]
  rfl

/-- A value that is no container stays as it is if it is native. -/
theorem plain_leaf {v : Value} (hv : Kind.of v ≠ .any) : Plain v ↔ v.Native := by
  cases v with
  | list xs => exact absurd rfl hv
  | record m => exact absurd rfl hv
  | float x =>
    refine ⟨fun h => ?_, plain_float⟩
    by_contra hx
    have hlost : Number.ofFloat? x = none := dif_neg hx
    rw [Plain, reread, toJson, floatJson, hlost] at h
    cases h
  | dateTime d => exact iff_of_false (by rintro ⟨⟩) id
  | date d => exact iff_of_false (by rintro ⟨⟩) id
  | duration d => exact iff_of_false (by rintro ⟨⟩) id
  | _ => exact iff_of_true rfl trivial

/-- **A value stays as it is** if everything in it is native. -/
theorem plain_iff (v : Value) : Plain v ↔ ∀ p u, v.At p u → u.Native := by
  induction hd : v.depth using Nat.strong_induction_on generalizing v with
  | _ d ih =>
    subst hd
    by_cases hv : Kind.of v = .any
    · cases v with
      | list xs =>
        rw [plain_list, forall_at_list, and_iff_right (show Native (.list xs) from trivial)]
        exact forall₂_congr fun x hx => ih _ (depth_item hx) x rfl
      | record m =>
        rw [plain_record, forall_at_record, and_iff_right (show Native (.record m) from trivial)]
        exact forall₂_congr fun e he => ih _ (depth_entry he) e.2 rfl
      | _ => cases hv
    · rw [plain_leaf hv, forall_at_leaf hv]

end Value

/-! ## From documents to values and back -/

/-- The whole number that a number of a document is; none for a binary number. -/
def Number.integer? : Number → Option Int
  | .int n => some n.toInt
  | .big n _ => some n.toNat
  | .float _ _ => none

/-- The number, if it is whole, is in the range with a sign. -/
def Number.Signed (n : Number) : Prop := ∀ i, n.integer? = some i → i ≤ 2 ^ 63 - 1

theorem Number.not_signed_big {n : UInt64} {above : 0x8000000000000000 ≤ n.toNat} :
    ¬ (Number.big n above).Signed := by
  intro h
  have := h n.toNat rfl
  omega

theorem Number.signed_int (n : Int64) : (Number.int n).Signed := by
  rintro i hi
  have hlt := n.toInt_lt
  obtain rfl : n.toInt = i := Option.some.inj hi
  omega

theorem Number.signed_float {x : Float} {finite : x.isFinite = true} :
    (Number.float x finite).Signed := by
  rintro _ ⟨⟩

open Float.Model in
/-- A finite number is equal to itself. -/
theorem beq_self_of_isFinite {x : Float} (hx : x.isFinite = true) : (x == x) = true := by
  have hfinite : x.toModel.unpack.isFinite = true := hx
  change (UnpackedFloat.compare x.toModel.unpack x.toModel.unpack == some .eq) = true
  cases hu : x.toModel.unpack with
  | notANumber =>
    rw [hu] at hfinite
    cases hfinite
  | infinity s =>
    rw [hu] at hfinite
    cases hfinite
  | zero s => rfl
  | finite s m e hm => cases s <;> simp [UnpackedFloat.compare]

namespace Json

/-- The document, read as a value and written again. -/
def reread (j : Json) : Json := (Value.ofJson j).toJson

theorem reread_arr (xs : List Json) : reread (.arr xs) = .arr (xs.map reread) := by
  simp [reread, Value.ofJson, Value.toJson, Value.ofItems_eq, Value.jsonItems_eq, Function.comp_def]

theorem reread_obj (m : List (String × Json)) : reread (.obj m) = .obj (mapValues reread m) := by
  simp [reread, Value.ofJson, Value.toJson, Value.ofMembers_eq, Value.jsonMembers_eq, mapValues]

theorem floatJson_of_isFinite {x : Float} (hx : x.isFinite = true) :
    Value.floatJson x = .num (.float x hx) := by
  simp only [Value.floatJson, Number.ofFloat?, dif_pos hx]

/-- A number that is too large becomes a binary one. -/
theorem reread_big {n : UInt64} {above : 0x8000000000000000 ≤ n.toNat} :
    reread (.num (.big n above)) = .num (.float n.toFloat (Binary.isFinite_toFloat n)) :=
  floatJson_of_isFinite _

/-- A number stays as it is unless it is too large; then not even an equal one is left. -/
theorem reread_num (n : Number) : (reread (.num n) = .num n ↔ n.Signed) ∧
    ((reread (.num n)).same (.num n) = true ↔ n.Signed) := by
  cases n with
  | int n =>
    exact ⟨iff_of_true rfl (Number.signed_int n),
      iff_of_true (beq_self_eq_true n) (Number.signed_int n)⟩
  | big n above =>
    rw [reread_big]
    exact ⟨iff_of_false (by rintro ⟨⟩) Number.not_signed_big,
      iff_of_false (by rintro ⟨⟩) Number.not_signed_big⟩
  | float x finite =>
    have hx : reread (.num (.float x finite)) = .num (.float x finite) := floatJson_of_isFinite finite
    rw [hx]
    exact ⟨iff_of_true rfl Number.signed_float,
      iff_of_true (beq_self_of_isFinite finite) Number.signed_float⟩

/-- **A document stays as it is** if no whole number in it is too large. -/
theorem reread_eq_iff (j : Json) : j.reread = j ↔ ∀ n, j.Contains (.num n) → n.Signed := by
  induction j using ind with
  | _ j ih =>
    rw [forall_contains]
    cases j with
    | num n => simp [parts, (reread_num n).1]
    | arr xs =>
      have hitems : reread (.arr xs) = .arr xs ↔ ∀ x ∈ xs, reread x = x := by
        rw [reread_arr, arr.injEq]
        conv_lhs => rhs; rw [← List.map_id xs]
        exact List.map_inj_left
      rw [hitems, and_iff_right (by rintro _ ⟨⟩)]
      exact forall₂_congr fun x hx => ih x hx
    | obj m =>
      have hmembers : reread (.obj m) = .obj m ↔ ∀ e ∈ m, reread e.2 = e.2 := by
        rw [reread_obj, obj.injEq]
        conv_lhs => rhs; rw [← List.map_id m]
        rw [mapValues, List.map_inj_left]
        refine forall₂_congr fun e _ => ?_
        rw [id, Prod.mk.injEq, and_iff_right rfl]
      rw [hmembers, and_iff_right (by rintro _ ⟨⟩)]
      refine Iff.trans ?_ forall_parts_obj.symm
      exact forall₂_congr fun e he => ih e.2 (List.mem_map_of_mem he)
    | _ => exact iff_of_true rfl ⟨by simp, by simp [parts]⟩

/-- **A document stays equal**, in a sense that ignores the order of names, in the same cases. -/
theorem same_reread_iff {j : Json} (hj : j.Distinct) :
    j.reread.same j = true ↔ ∀ n, j.Contains (.num n) → n.Signed := by
  induction j using ind with
  | _ j ih =>
    rw [forall_contains]
    cases j with
    | num n => simp [parts, (reread_num n).2]
    | arr xs =>
      have hxs := distinct_arr.1 hj
      rw [reread_arr, same, sameItems_iff, List.forall₂_map_left_iff, List.forall₂_same,
        and_iff_right (by rintro _ ⟨⟩)]
      exact forall₂_congr fun x hx => ih x hx (hxs x hx)
    | obj m =>
      obtain ⟨hm, hvalues⟩ := distinct_obj.1 hj
      have hlength : (mapValues reread m).length = m.length := List.length_map _
      -- a name leads back to its own member, because it stands only once
      have hmembers : sameMembers (mapValues reread m) m = true ↔ ∀ e ∈ m, e.2.reread.same e.2 = true := by
        rw [sameMembers_iff, mapValues, List.forall_mem_map]
        refine forall₂_congr fun e he => ?_
        simp only [Entries.find?_of_mem hm he, Option.some.injEq, exists_eq_left']
      rw [reread_obj, same, hlength, beq_self_eq_true, Bool.true_and, hmembers,
        and_iff_right (by rintro _ ⟨⟩)]
      refine Iff.trans ?_ forall_parts_obj.symm
      exact forall₂_congr fun e he => ih e.2 (List.mem_map_of_mem he) (hvalues e he)
    | null => exact iff_of_true rfl ⟨by simp, by simp [parts]⟩
    | bool b => exact iff_of_true (beq_self_eq_true b) ⟨by simp, by simp [parts]⟩
    | str s => exact iff_of_true (beq_self_eq_true s) ⟨by simp, by simp [parts]⟩

end Json

/-! ## Main statement -/

/-- **Nothing is lost but what has to be.** A value that is written as a document and read again is that
very value, with whole and binary numbers apart and the fields in their order, if and only if no temporal
value and no number that is not finite stands in it. A document that is read as a value and written again
is that very document if and only if no whole number above `2 ^ 63 - 1` stands in it; and where names are
not repeated, it is not even equal otherwise, whether or not the order of names counts. -/
theorem lossless_exactly :
    (∀ v : Value, Value.ofJson v.toJson = v ↔ ∀ p u, v.At p u → u.Native) ∧
    (∀ j : Json, (Value.ofJson j).toJson = j ↔
      ∀ n, j.Contains (.num n) → ∀ i, n.integer? = some i → i ≤ 2 ^ 63 - 1) ∧
    ∀ j : Json, j.Distinct → ((Value.ofJson j).toJson.same j = true ↔
      ∀ n, j.Contains (.num n) → ∀ i, n.integer? = some i → i ≤ 2 ^ 63 - 1) :=
  ⟨Value.plain_iff, Json.reread_eq_iff, fun _ hj => Json.same_reread_iff hj⟩

/-- A reading with numbers of both sorts. -/
def Value.gauge : Value := .record [("z", .float 2.0), ("a", .list [.int 2, .null])]

/-- A count that is too large by one. -/
def Json.tally : Json := .obj [("z", .arr [.num (.big 0x8000000000000000 (by decide))]), ("a", .null)]

/-- A reading comes back as it is, its keys in their order; a large count does not even come back as an
equal one. -/
theorem lossless_exactly_gauge :
    Value.ofJson Value.gauge.toJson = Value.gauge ∧
    Json.tally.Distinct ∧ (Value.ofJson Json.tally).toJson.same Json.tally = false := by
  have hgauge : ∀ p u, Value.gauge.At p u → u.Native := by
    rw [Value.gauge, Value.forall_at_record]
    refine ⟨trivial, fun e he => ?_⟩
    rcases List.mem_pair.1 he with rfl | rfl
    · exact (Value.forall_at_leaf (by decide)).2 (by decide)
    · refine Value.forall_at_list.2 ⟨trivial, fun x hx => ?_⟩
      rcases List.mem_pair.1 hx with rfl | rfl
      · exact (Value.forall_at_leaf (by decide)).2 trivial
      · exact (Value.forall_at_leaf (by decide)).2 trivial
  have hdistinct : Json.tally.Distinct := by
    rw [Json.tally, Json.distinct_obj]
    refine ⟨by decide, fun e he => ?_⟩
    rcases List.mem_pair.1 he with rfl | rfl
    · refine Json.distinct_arr.2 fun x hx => ?_
      obtain rfl := List.mem_singleton.1 hx
      exact Json.distinct_of_parts rfl
    · exact Json.distinct_of_parts rfl
  refine ⟨(lossless_exactly.1 Value.gauge).2 hgauge, hdistinct, Bool.eq_false_iff.2 fun hsame => ?_⟩
  have hin : Json.tally.Contains (.num (.big 0x8000000000000000 (by decide))) :=
    .tail (.single (show _ ∈ [Json.arr _, Json.null] from List.mem_cons_self))
      (show _ ∈ [_] from List.mem_cons_self)
  have hle := (lossless_exactly.2.2 Json.tally hdistinct).1 hsame _ hin 0x8000000000000000 rfl
  omega

end Conform
