import Conform.Proofs.Scope.Order
import Mathlib.Data.List.Chain
import Mathlib.Logic.Relation

/-!
# The cycles that the search finds

The search for unguarded cycles gives up at a name that is on its way already. The names on the way
refer to each other, so the part of the way from that name on is a cycle; and where there is a cycle
the search cannot come to its end. So it decides whether there is one.

* `Closes es way node`: the search came to `node` along `way`, and `node` is on the way;
* `Visit bs fuel way marks node`: the search makes this visit;
* `Visit.reached`: the invariant of the search holds at every visit;
* `exists_visit_active`: a cycle is reported at a visit of a name on the way;
* `find?_eq_some`: what is reported is the part of the way that closes;
* `find?_eq_none_iff`: nothing is reported exactly when no name leads back to itself.
-/

namespace Conform.Cycle

open Entries (keys)

/-- The first name refers to the second. -/
def Refers (es : List (String × List String)) (x y : String) : Prop := y ∈ next es x

/-- No name leads back to itself. -/
def Acyclic (es : List (String × List String)) : Prop := ∀ x, ¬ Relation.TransGen (Refers es) x x

/-- Every name refers to the one in front of it: the names are those on a way, the last one first. -/
def Linked (es : List (String × List String)) (names : List String) : Prop :=
  names.IsChain fun y x => Refers es x y

/-- The search came to `node` along the way, which has distinct names, and `node` is one of them. -/
structure Closes (es : List (String × List String)) (way : List String) (node : String) : Prop where
  distinct : way.Nodup
  inside : way ⊆ keys es
  linked : Linked es (node :: way)
  met : node ∈ way

section Ways

variable {es : List (String × List String)} {way : List String} {node : String}

/-- Every name on the way leads to the name at its end. -/
theorem Linked.leads (h : Linked es (node :: way)) {x : String} (hx : x ∈ way) :
    Relation.TransGen (Refers es) x node := by
  induction way generalizing node with
  | nil => simp at hx
  | cons z way ih =>
    obtain ⟨hz, h⟩ := List.isChain_cons_cons.1 h
    rcases List.mem_cons.1 hx with rfl | hx
    · exact .single hz
    · exact (ih h hx).tail hz

theorem Closes.leads (h : Closes es way node) : Relation.TransGen (Refers es) node node :=
  h.linked.leads h.met

end Ways

/-! ## The visits of a search -/

/-- The search for a cycle makes this visit: from the root, after all bound names before it, or from
a name that it enters, after all names before it that this one refers to. -/
inductive Visit (bs : List (String × Schema)) :
    Nat → List String → List (String × Mark) → String → Prop
  | root {before node after marks} (hroots : keys (edges bs) = before ++ node :: after)
      (hbefore : before.foldlM (visit (edges bs) (bs.length + 1) []) [] = .ok marks) :
      Visit bs (bs.length + 1) [] marks node
  | inner {fuel way marks node before inner after marks'} (h : Visit bs (fuel + 1) way marks node)
      (hnew : Entries.find? node marks = none) (hnext : next (edges bs) node = before ++ inner :: after)
      (hbefore : before.foldlM (visit (edges bs) fuel (node :: way))
        (Entries.put node .active marks) = .ok marks') :
      Visit bs fuel (node :: way) marks' inner

/-- What holds when the search comes to a name: the marks are those of the names on the way and of
those left, the way leads to the name, and the fuel is enough for all names that may still come. -/
structure Reached (es : List (String × List String)) (fuel : Nat) (way : List String)
    (marks : List (String × Mark)) (node : String) : Prop where
  searched : ∃ order, Searched es way marks order
  bound : node ∈ keys es
  linked : Linked es (node :: way)
  fuelled : (keys es).length < fuel + way.length

section Visit

variable {bs : List (String × Schema)} {fuel : Nat} {way c : List String}
  {marks : List (String × Mark)} {node : String}

/-- **The invariant holds at every visit.** The visits before it on the same way found no cycle, and
so have left their names. -/
theorem Visit.reached (h : Visit bs fuel way marks node) : Reached (edges bs) fuel way marks node := by
  induction h with
  | @root before node after marks hroots hbefore =>
    have hfuel : (keys (edges bs)).length < bs.length + 1 + ([] : List String).length := by
      simp [edges, keys]
    have hsub : before ⊆ keys (edges bs) := hroots ▸ List.subset_append_left before _
    have hnode : node ∈ keys (edges bs) := hroots ▸ by simp
    obtain ⟨new, hsearched, -⟩ := foldlM_ok
      (fun h hk hv => visit_ok (next_edges_subset bs) hfuel h hk hv) hsub Searched.start hbefore
    exact ⟨⟨_, hsearched⟩, hnode, List.isChain_singleton node, hfuel⟩
  | @inner fuel way marks node before inner after marks' _ hnew hnext hbefore ih =>
    obtain ⟨⟨order, hsearched⟩, hbound, hlinked, hfuelled⟩ := ih
    have hfuel : (keys (edges bs)).length < fuel + (node :: way).length := by
      simp only [List.length_cons]
      omega
    have hinner : inner ∈ next (edges bs) node := hnext ▸ by simp
    have hsub : before ⊆ keys (edges bs) := fun n hn =>
      next_edges_subset bs node (hnext ▸ List.mem_append_left _ hn)
    obtain ⟨new, hsearched', -⟩ := foldlM_ok
      (fun h hk hv => visit_ok (next_edges_subset bs) hfuel h hk hv) hsub
      (hsearched.enter hnew hbound) hbefore
    exact ⟨⟨_, hsearched'⟩, next_edges_subset bs node hinner,
      List.isChain_cons_cons.2 ⟨hinner, hlinked⟩, hfuel⟩

/-- The names marked as active are those on the way. -/
theorem Reached.active_iff {es : List (String × List String)} (h : Reached es fuel way marks node)
    (x : String) : Entries.find? x marks = some .active ↔ x ∈ way := by
  obtain ⟨order, hsearched⟩ := h.searched
  exact hsearched.active x

/-- The fuel does not run out: the names on the way are distinct and bound. -/
theorem Reached.fuel_pos {es : List (String × List String)} (h : Reached es fuel way marks node) :
    0 < fuel := by
  obtain ⟨order, hsearched⟩ := h.searched
  have hlength := hsearched.way_length_le
  have hfuelled := h.fuelled
  omega

theorem Reached.closes {es : List (String × List String)} (h : Reached es fuel way marks node)
    (hactive : Entries.find? node marks = some .active) : Closes es way node := by
  obtain ⟨order, hsearched⟩ := h.searched
  exact ⟨hsearched.distinct, hsearched.inside, h.linked, (hsearched.active node).1 hactive⟩

/-- Of several visits one after the other, one fails after those before it have succeeded. -/
theorem exists_of_foldlM_error
    {f : List (String × Mark) → String → Except (List String) (List (String × Mark))}
    {names : List String} (hf : names.foldlM f marks = .error c) :
    ∃ before n after marks', names = before ++ n :: after ∧ before.foldlM f marks = .ok marks' ∧
      f marks' n = .error c := by
  induction names generalizing marks with
  | nil => simp [pure, Except.pure] at hf
  | cons n r ih =>
    rw [List.foldlM_cons] at hf
    rcases Outcome.bind_eq_error.1 hf with hf | ⟨m, hv, hf⟩
    · exact ⟨[], n, r, marks, rfl, rfl, hf⟩
    · obtain ⟨before, n', after, marks', rfl, hbefore, hfails⟩ := ih hf
      refine ⟨n :: before, n', after, marks', rfl, ?_, hfails⟩
      rw [List.foldlM_cons]
      exact Outcome.bind_eq_ok.2 ⟨m, hv, hbefore⟩

/-- A visit that fails makes a visit of a name marked as active, and reports where it closes. -/
theorem Visit.exists_active (h : Visit bs fuel way marks node)
    (hv : visit (edges bs) fuel way marks node = .error c) :
    ∃ fuel' way' marks' node', Visit bs fuel' way' marks' node' ∧
      Entries.find? node' marks' = some .active ∧ c = close node' way' := by
  induction fuel generalizing way marks node with
  | zero => simp [visit] at hv
  | succ fuel ih =>
    unfold visit at hv
    split at hv
    · simp at hv
    · rename_i hactive
      exact ⟨fuel + 1, way, marks, node, h, hactive, (Except.error.inj hv).symm⟩
    · rename_i hnew
      rcases Outcome.bind_eq_error.1 hv with hv | ⟨m, -, hv⟩
      · obtain ⟨before, n, after, marks', hnext, hbefore, hfails⟩ := exists_of_foldlM_error hv
        exact ih (.inner h hnew hnext hbefore) hfails
      · simp [pure, Except.pure] at hv

/-- **A cycle is reported** at a visit of a name marked as active. -/
theorem exists_visit_active (h : find? bs = some c) : ∃ fuel way marks node,
    Visit bs fuel way marks node ∧ Entries.find? node marks = some .active ∧ c = close node way := by
  cases hf : (keys (edges bs)).foldlM (visit (edges bs) (bs.length + 1) []) [] with
  | ok marks => simp [find?, hf] at h
  | error c' =>
    obtain rfl : c' = c := by simpa [find?, hf] using h
    obtain ⟨before, n, after, marks, hroots, hbefore, hfails⟩ := exists_of_foldlM_error hf
    exact Visit.exists_active (.root hroots hbefore) hfails

end Visit

/-! ## The answer of the search -/

section Bindings

variable {bs : List (String × Schema)} {c : List String}

/-- **What is reported** is the part of a way that closes. -/
theorem find?_eq_some (h : find? bs = some c) :
    ∃ way node, Closes (edges bs) way node ∧ c = close node way := by
  obtain ⟨fuel, way, marks, node, hvisit, hactive, hclose⟩ := exists_visit_active h
  exact ⟨way, node, hvisit.reached.closes hactive, hclose⟩

/-- A rank falls along the references, so no name leads back to itself. -/
theorem IsRank.acyclic {r : String → Nat} (h : IsRank bs r) : Acyclic (edges bs) := by
  have hfalls : ∀ x y, Relation.TransGen (Refers (edges bs)) x y → r y < r x := by
    intro x y hxy
    have step : ∀ {x y}, Refers (edges bs) x y → r y < r x := by
      intro x y hy
      obtain ⟨t, ht, hu, hk⟩ := mem_next_edges.1 hy
      exact h.lt ht hu hk
    induction hxy with
    | single hy => exact step hy
    | tail _ hy ih => exact Nat.lt_trans (step hy) ih
  exact fun x hx => Nat.lt_irrefl _ (hfalls x x hx)

/-- **The search decides**: it reports nothing exactly when no name leads back to itself. -/
theorem find?_eq_none_iff : find? bs = none ↔ Acyclic (edges bs) := by
  constructor
  · intro h
    obtain ⟨r, hr⟩ := exists_rank h
    exact hr.acyclic
  · intro h
    cases hc : find? bs with
    | none => rfl
    | some c =>
      obtain ⟨way, node, hcloses, -⟩ := find?_eq_some hc
      exact absurd hcloses.leads (h node)

end Bindings

end Conform.Cycle
