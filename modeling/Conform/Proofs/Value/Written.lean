import Conform.Proofs.Json.OneLine
import Conform.Proofs.Validate.Calls
import Conform.Proofs.Value.Json

/-!
# Values written as text

There are two ways to write a value as JSON: to print it while walking it, or to build its document and
print that. The first sets a comma behind every part but the last, the second prints the parts and joins
their texts; the first asks whether a binary number is finite where it prints it, the second where it
builds the number. The texts are the same, because they are the same for all parts.

* `Value.ind`: induction on values;
* `Value.writeItems_eq`, `Value.writeFields_eq`: commas behind the parts are commas between them;
* `Value.write_float`: a binary number, finite or not;
* `Value.write_eq_compact_toJson`: the main statement.
-/

namespace Conform.Value

open Entries (mapValues)

/-! ## Parts and induction -/

/-- The values that stand directly inside a value. -/
def parts : Value → List Value
  | .list xs => xs
  | .record m => m.map (·.2)
  | _ => []

theorem forall_parts_record {P : Value → Prop} {m : List (String × Value)} :
    (∀ u ∈ (record m).parts, P u) ↔ ∀ e ∈ m, P e.2 :=
  List.forall_mem_map

theorem depth_part {v u : Value} (hu : u ∈ v.parts) : u.depth < v.depth := by
  cases v with
  | list xs => exact depth_item hu
  | record m =>
    obtain ⟨e, he, rfl⟩ := List.mem_map.1 hu
    exact depth_entry he
  | _ => simp [parts] at hu

/-- **Induction on values**, with one hypothesis for all parts. -/
theorem ind {P : Value → Prop} (step : ∀ v, (∀ u ∈ v.parts, P u) → P v) (v : Value) : P v :=
  step v fun u _ => ind step u
termination_by v.depth
decreasing_by exact depth_part ‹_›

/-! ## Walking and printing -/

/-- A comma behind every part but the last is a comma between the parts. -/
theorem eq_intercalate {α : Type} {all : List α → String} {one : α → String} (hnil : all [] = "")
    (hlast : ∀ a, all [a] = one a) (hmore : ∀ a b r, all (a :: b :: r) = one a ++ "," ++ all (b :: r))
    (xs : List α) : all xs = ",".intercalate (xs.map one) := by
  induction xs with
  | nil => simp [hnil]
  | cons a r ih =>
    cases r with
    | nil => simp [hlast]
    | cons b r => rw [hmore, ih, List.map_cons, List.map_cons, List.map_cons, String.intercalate_cons_cons]

theorem writeItems_eq (xs : List Value) : writeItems xs = ",".intercalate (xs.map write) :=
  eq_intercalate rfl (fun _ => rfl) (fun _ _ _ => rfl) xs

theorem writeFields_eq (m : List (String × Value)) :
    writeFields m = ",".intercalate (m.map fun e => Json.quote e.1 ++ ":" ++ write e.2) :=
  eq_intercalate rfl (fun _ => rfl) (fun _ _ _ => rfl) m

/-! ## Building and printing -/

/-- A binary number is printed as its document is: as a number, or as null when it is not finite. -/
theorem write_float (x : Float) : write (.float x) = (floatJson x).compact := by
  by_cases hx : x.isFinite = true
  · simp [write, floatJson, Number.ofFloat?, hx, Json.compact, Number.text]
  · simp [write, floatJson, Number.ofFloat?, hx, Json.compact]

theorem compact_toJson_list (xs : List Value) :
    (toJson (.list xs)).compact = "[" ++ ",".intercalate (xs.map fun v => v.toJson.compact) ++ "]" := by
  rw [toJson, Json.compact, jsonItems_eq, Json.compactItems_eq, List.map_map]
  rfl

theorem compact_toJson_record (m : List (String × Value)) : (toJson (.record m)).compact =
    "\x7b" ++ ",".intercalate (m.map fun e => Json.quote e.1 ++ ":" ++ e.2.toJson.compact) ++ "\x7d" := by
  rw [toJson, Json.compact, jsonMembers_eq, Json.compactMembers_eq, mapValues, List.map_map]
  rfl

/-! ## Main statement -/

/-- **One text.** What is printed while walking a value is the text of its document without blanks:
whatever lists and records stand in the value, with temporal values, numbers that are not finite and
characters to escape anywhere in it. -/
theorem write_eq_compact_toJson (v : Value) : v.write = v.toJson.compact := by
  induction v using ind with
  | _ v part =>
    cases v with
    | list xs =>
      have hparts : xs.map write = xs.map fun v => v.toJson.compact := List.map_congr_left part
      rw [compact_toJson_list, write, writeItems_eq, hparts]
    | record m =>
      have hparts : (m.map fun e => Json.quote e.1 ++ ":" ++ write e.2) =
          m.map fun e => Json.quote e.1 ++ ":" ++ e.2.toJson.compact := by
        refine List.map_congr_left fun e he => ?_
        rw [forall_parts_record.1 part e he]
      rw [compact_toJson_record, write, writeFields_eq, hparts]
    | float x => exact write_float x
    | null | bool _ | int _ | str _ | dateTime _ | date _ | duration _ =>
      simp only [write, toJson, Json.compact, Number.text]

example : write (.list [.float (1.0 / 0.0), .list [], .str "a\n"]) = "[null,[],\"a\\n\"]" := by
  decide +kernel

end Conform.Value
