import Conform.Proofs.Scope.Cycle
import Mathlib.Data.List.Nodup

/-!
# What a reported cycle is

The search reports the part of its way that closes at a name marked as active. The names marked as
active are those on the way, at every visit that the search makes, so the place where the cycle
starts is always found, and what is reported is a cycle of the bindings.

* `Genuine bs c`: the names `c` are a cycle of unguarded references among the bindings;
* `close_of_mem`: a name on the way has a place on it, and closes the part from there on;
* `Closes.genuine`: a way that closes gives a cycle;
* `cycle_genuine`: the main statement.
-/

namespace Conform.Cycle

open Entries (keys)

/-- **A cycle of unguarded references**: it leads through bound names back to the first one, and
through no name twice before that. -/
structure Genuine (bs : List (String × Schema)) (c : List String) : Prop where
  long : 2 ≤ c.length
  closed : c.head? = c.getLast?
  distinct : c.dropLast.Nodup
  bound : ∀ n ∈ c, n ∈ keys bs
  linked : c.IsChain fun n m => ∃ t, Entries.find? n bs = some t ∧ m ∈ t.unguarded

/-! ## Closing a way -/

section Close

variable {bs : List (String × Schema)} {way : List String} {node : String}

/-- A name on the way has a place on it, and closes the part of the way from there on. -/
theorem close_of_mem (hdistinct : way.Nodup) (hmet : node ∈ way) :
    ∃ before after, way.reverse = before ++ node :: after ∧
      way.reverse.idxOf? node = some before.length ∧ close node way = node :: after ++ [node] := by
  obtain ⟨before, after, hsplit⟩ := List.append_of_mem (List.mem_reverse.2 hmet)
  have hnodup : (before ++ node :: after).Nodup := hsplit ▸ List.nodup_reverse.2 hdistinct
  have hfirst : node ∉ before := fun h =>
    (List.nodup_append.1 hnodup).2.2 node h node List.mem_cons_self rfl
  have hplace : way.reverse.idxOf? node = some before.length := by
    rw [hsplit, List.idxOf?, List.findIdx?_append]
    have hnone : before.findIdx? (· == node) = none := by
      rw [List.findIdx?_eq_none_iff]
      intro x hx
      simpa using fun e : x = node => hfirst (e ▸ hx)
    simp [hnone, List.findIdx?_cons]
  refine ⟨before, after, hsplit, hplace, ?_⟩
  have hdrop : close node way = way.reverse.drop before.length ++ [node] := by
    simp only [close, hplace, Option.getD_some]
  rw [hdrop, hsplit, List.drop_left]

/-- **A way that closes gives a cycle.** The way is one of references between distinct bound names,
and the name at its end is the first of the part that is reported. -/
theorem Closes.genuine (h : Closes (edges bs) way node) : Genuine bs (close node way) := by
  obtain ⟨before, after, hsplit, -, hclose⟩ := close_of_mem h.distinct h.met
  have hpart : ∀ n ∈ node :: after, n ∈ way := fun n hn =>
    List.mem_reverse.1 (hsplit ▸ List.mem_append_right before hn)
  have hforward : (before ++ (node :: after ++ [node])).IsChain (Refers (edges bs)) := by
    have hreverse : (node :: way).reverse = before ++ (node :: after ++ [node]) := by
      simp [hsplit]
    rw [← hreverse, List.isChain_reverse]
    exact h.linked
  rw [hclose]
  refine ⟨by simp, List.getLast?_concat.symm, ?_, fun n hn => ?_, ?_⟩
  · have hnodup : (before ++ node :: after).Nodup := hsplit ▸ List.nodup_reverse.2 h.distinct
    rw [List.dropLast_concat]
    exact (List.nodup_append.1 hnodup).2.1
  · have hmem : n ∈ node :: after := by
      simp only [List.mem_append, List.mem_cons] at hn ⊢
      grind
    exact keys_edges bs ▸ h.inside (hpart n hmem)
  · refine hforward.right_of_append.imp fun n m hm => ?_
    obtain ⟨t, ht, hu, -⟩ := mem_next_edges.1 hm
    exact ⟨t, ht, hu⟩

end Close

/-- **A reported cycle is genuine.** What the search reports is a cycle of unguarded references among
the bindings. At every visit that it makes the names marked as active are those on its way, which are
distinct and refer to each other, and there is fuel left; so a visited name that is marked as active
has a place on the way, and it is this place where the reported cycle starts. -/
theorem cycle_genuine (bs : List (String × Schema)) :
    (∀ c, find? bs = some c → Genuine bs c) ∧
    ∀ fuel way marks node, Visit bs fuel way marks node →
      (∀ x, Entries.find? x marks = some .active ↔ x ∈ way) ∧ way.Nodup ∧
      Linked (edges bs) (node :: way) ∧ 0 < fuel ∧
      (Entries.find? node marks = some .active →
        ∃ i, way.reverse.idxOf? node = some i ∧ close node way = way.reverse.drop i ++ [node]) := by
  refine ⟨fun c h => ?_, fun fuel way marks node h => ?_⟩
  · obtain ⟨fuel, way, marks, node, hvisit, hactive, rfl⟩ := exists_visit_active h
    exact (hvisit.reached.closes hactive).genuine
  · have hreached := h.reached
    obtain ⟨order, hsearched⟩ := hreached.searched
    refine ⟨hreached.active_iff, hsearched.distinct, hreached.linked, hreached.fuel_pos,
      fun hactive => ?_⟩
    obtain ⟨before, after, hsplit, hplace, hclose⟩ :=
      close_of_mem hsearched.distinct ((hreached.active_iff node).1 hactive)
    exact ⟨before.length, hplace, by simp [hclose, hsplit]⟩

/-! ## An example: a cycle behind its root -/

/-- The path leads to the pond, and pond and stream lead to each other. -/
def water : List (String × Schema) :=
  [("Path", .nullable (.ref "Pond")), ("Pond", .union [.array (.ref "Path"), .ref "Stream"]),
    ("Stream", .refined (.ref "Pond") [])]

/-- The visit that finds the cycle of pond and stream. -/
theorem visit_water : Visit water 1 ["Stream", "Pond", "Path"]
    [("Path", .active), ("Pond", .active), ("Stream", .active)] "Pond" := by
  have hpath : Visit water 4 [] [] "Path" :=
    .root (show keys (edges water) = [] ++ "Path" :: ["Pond", "Stream"] from rfl) rfl
  have hpond : Visit water 3 ["Path"] [("Path", .active)] "Pond" :=
    .inner hpath rfl (show next (edges water) "Path" = [] ++ "Pond" :: [] from rfl) rfl
  have hstream : Visit water 2 ["Pond", "Path"] [("Path", .active), ("Pond", .active)] "Stream" :=
    .inner hpond rfl (show next (edges water) "Pond" = [] ++ "Stream" :: [] from rfl) rfl
  exact .inner hstream rfl (show next (edges water) "Stream" = [] ++ "Pond" :: [] from rfl) rfl

/-- The cycle starts at the second name of the way. -/
theorem cycle_genuine_water :
    find? water = some ["Pond", "Stream", "Pond"] ∧ Genuine water ["Pond", "Stream", "Pond"] ∧
    ∃ i, ["Path", "Pond", "Stream"].idxOf? "Pond" = some i ∧
      ["Pond", "Stream", "Pond"] = ["Path", "Pond", "Stream"].drop i ++ ["Pond"] := by
  have hfind : find? water = some ["Pond", "Stream", "Pond"] := rfl
  obtain ⟨hgenuine, hvisits⟩ := cycle_genuine water
  exact ⟨hfind, hgenuine _ hfind, (hvisits _ _ _ _ visit_water).2.2.2.2 rfl⟩

end Conform.Cycle
