import Conform.Value.Json
import Conform.Proofs.Decimal.Nearest
import Conform.Proofs.Entries

/-!
# Values that are written and read again

`reread` writes a value as a document and reads the document. Values read from documents are
`Plain`: they stay as they are. Temporal values become texts.
-/

namespace Conform.Value

open Entries (mapValues)

/-! ## Items and members -/

theorem ofItems_eq (js : List Json) : ofItems js = js.map ofJson := by
  induction js with
  | nil => rfl
  | cons j js ih => rw [ofItems, ih, List.map_cons]

theorem ofMembers_eq (m : List (String × Json)) : ofMembers m = mapValues ofJson m := by
  induction m with
  | nil => rfl
  | cons e m ih => rw [ofMembers, ih, mapValues, mapValues, List.map_cons]

theorem jsonItems_eq (vs : List Value) : jsonItems vs = vs.map toJson := by
  induction vs with
  | nil => rfl
  | cons v vs ih => rw [jsonItems, ih, List.map_cons]

theorem jsonMembers_eq (m : List (String × Value)) : jsonMembers m = mapValues toJson m := by
  induction m with
  | nil => rfl
  | cons e m ih => rw [jsonMembers, ih, mapValues, mapValues, List.map_cons]

/-! ## Writing and reading -/

/-- The value, written as a document and read again. -/
def reread (v : Value) : Value := ofJson v.toJson

/-- A value that stays as it is when it is written and read again. -/
def Plain (v : Value) : Prop := v.reread = v

theorem reread_list (xs : List Value) : reread (.list xs) = .list (xs.map reread) := by
  simp [reread, toJson, ofJson, jsonItems_eq, ofItems_eq, Function.comp_def]

theorem reread_record (m : List (String × Value)) :
    reread (.record m) = .record (mapValues reread m) := by
  simp [reread, toJson, ofJson, jsonMembers_eq, ofMembers_eq, mapValues]

theorem plain_float {x : Float} (hx : x.isFinite = true) : Plain (.float x) := by
  simp [Plain, reread, toJson, floatJson, Number.ofFloat?, hx, ofJson, ofNumber]

theorem Plain.item {xs : List Value} {v : Value} (h : Plain (.list xs)) (hv : v ∈ xs) :
    Plain v := by
  rw [Plain, reread_list, Value.list.injEq] at h
  exact List.map_inj_left.1 (h.trans (List.map_id xs).symm) v hv

theorem Plain.entry {m : List (String × Value)} {k : String} {v : Value} (h : Plain (.record m))
    (hv : (k, v) ∈ m) : Plain v := by
  rw [Plain, reread_record, Value.record.injEq] at h
  have hentry := List.map_inj_left.1 (h.trans (List.map_id m).symm) (k, v) hv
  exact (Prod.mk.inj hentry).2

mutual

/-- **What is read from a document is plain.** -/
theorem plain_ofJson : ∀ j : Json, Plain (ofJson j)
  | .null => rfl
  | .bool _ => rfl
  | .str _ => rfl
  | .num (.int _) => rfl
  | .num (.big n _) => plain_float (Binary.isFinite_toFloat n)
  | .num (.float _ hx) => plain_float hx
  | .arr js => by
    rw [Plain, ofJson, reread_list, plain_ofItems js]
  | .obj m => by
    rw [Plain, ofJson, reread_record, plain_ofMembers m]

theorem plain_ofItems : ∀ js : List Json, (ofItems js).map reread = ofItems js
  | [] => rfl
  | j :: r => by
    rw [ofItems, List.map_cons, plain_ofJson j, plain_ofItems r]

theorem plain_ofMembers : ∀ m : List (String × Json), mapValues reread (ofMembers m) = ofMembers m
  | [] => rfl
  | (k, j) :: r => by
    have hj : (ofJson j).reread = ofJson j := plain_ofJson j
    have hr : (ofMembers r).map (fun e => (e.1, reread e.2)) = ofMembers r := plain_ofMembers r
    rw [ofMembers, mapValues, List.map_cons, hj, hr]

end

end Conform.Value
