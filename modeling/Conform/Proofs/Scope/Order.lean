import Conform.Proofs.Outcome
import Conform.Scope.Cycle
import Mathlib.Data.List.Perm.Subperm

/-!
# The order in which the search leaves names

When the search for unguarded cycles comes to its end, the names in the order in which it left them,
the last one first, form a list where every name stands before all names that it refers to.

* `Ordered es order`: the list `order` has this property for the references `es`;
* `Searched es way marks order`: the invariant of the search, with the list of names left so far;
* `exists_rank`: bindings without an unguarded cycle have a rank that falls along every unguarded
  reference and is at most their number.
-/

namespace Conform.Cycle

open Entries (keys)

/-- The names that a name refers to. -/
def next (es : List (String × List String)) (x : String) : List String :=
  (Entries.find? x es).getD []

/-! ## Ordered names and their ranks -/

/-- Every name stands once, and before all names that it refers to. -/
def Ordered (es : List (String × List String)) : List String → Prop
  | [] => True
  | x :: r => x ∉ r ∧ next es x ⊆ r ∧ Ordered es r

/-- The number of names from `x` on; `0` for a name that is not there. -/
def rank : List String → String → Nat
  | [], _ => 0
  | y :: r, x => if y = x then r.length + 1 else rank r x

section Ordered

variable {es : List (String × List String)} {order : List String} {x y : String}

theorem Ordered.nodup (h : Ordered es order) : order.Nodup := by
  induction order with
  | nil => exact List.nodup_nil
  | cons z r ih => exact List.nodup_cons.2 ⟨h.1, ih h.2.2⟩

theorem Ordered.next_subset (h : Ordered es order) (hx : x ∈ order) : next es x ⊆ order := by
  induction order with
  | nil => simp at hx
  | cons z r ih =>
    obtain ⟨-, hz, hr⟩ := h
    rcases List.mem_cons.1 hx with rfl | hx
    · exact fun y hy => List.mem_cons_of_mem _ (hz hy)
    · exact fun y hy => List.mem_cons_of_mem _ (ih hr hx hy)

theorem rank_le_length (order : List String) (x : String) : rank order x ≤ order.length := by
  induction order with
  | nil => simp [rank]
  | cons y r ih =>
    unfold rank
    split
    · simp
    · exact Nat.le_succ_of_le ih

theorem rank_pos (hx : x ∈ order) : 0 < rank order x := by
  induction order with
  | nil => simp at hx
  | cons y r ih =>
    unfold rank
    split
    · exact Nat.succ_pos _
    · rename_i hne
      exact ih ((List.mem_cons.1 hx).resolve_left fun e => hne e.symm)

/-- A reference goes to a name of smaller rank. -/
theorem Ordered.rank_lt (h : Ordered es order) (hx : x ∈ order) (hy : y ∈ next es x) :
    rank order y < rank order x := by
  induction order with
  | nil => simp at hx
  | cons z r ih =>
    obtain ⟨hz, hnext, hr⟩ := h
    rcases List.mem_cons.1 hx with rfl | hxr
    · have hyr : y ∈ r := hnext hy
      have hne : x ≠ y := fun e => hz (e ▸ hyr)
      have := rank_le_length r y
      simp only [rank, hne, if_false, if_true]
      omega
    · have hne : z ≠ x := fun e => hz (e ▸ hxr)
      have hne' : z ≠ y := fun e => hz (e ▸ hr.next_subset hxr hy)
      simpa only [rank, hne, hne', if_false] using ih hr hxr

end Ordered

/-! ## The invariant of the search -/

/-- What the search knows on the way to a name: the names on the way are marked as active, the names
it has left as done, and those left are ordered. -/
structure Searched (es : List (String × List String)) (way : List String)
    (marks : List (String × Mark)) (order : List String) : Prop where
  active : ∀ x, Entries.find? x marks = some .active ↔ x ∈ way
  done : ∀ x, Entries.find? x marks = some .done ↔ x ∈ order
  distinct : way.Nodup
  inside : way ⊆ keys es
  ordered : Ordered es order
  left : order ⊆ keys es

section Searched

variable {es : List (String × List String)} {way order : List String}
  {marks marks' : List (String × Mark)} {node : String}

theorem Searched.start : Searched es [] [] [] := by
  constructor <;> simp [Ordered]

/-- The search enters a name that has no mark. -/
theorem Searched.enter (h : Searched es way marks order) (hn : Entries.find? node marks = none)
    (hk : node ∈ keys es) : Searched es (node :: way) (Entries.put node .active marks) order := by
  have hway : node ∉ way := fun hm => by simp [(h.active node).2 hm] at hn
  have horder : node ∉ order := fun hm => by simp [(h.done node).2 hm] at hn
  refine ⟨fun x => ?_, fun x => ?_, List.nodup_cons.2 ⟨hway, h.distinct⟩,
    List.cons_subset.2 ⟨hk, h.inside⟩, h.ordered, h.left⟩
  · rw [Entries.find?_put, List.mem_cons]
    by_cases hx : node = x
    · simp [hx]
    · simp [hx, h.active x, Ne.symm hx]
  · rw [Entries.find?_put]
    by_cases hx : node = x
    · subst hx
      simp [horder]
    · simp [hx, h.done x]

/-- The search leaves a name when it has left all names that this one refers to. -/
theorem Searched.leave (h : Searched es (node :: way) marks order) (hnext : next es node ⊆ order) :
    Searched es way (Entries.put node .done marks) (node :: order) := by
  obtain ⟨hway, hdistinct⟩ := List.nodup_cons.1 h.distinct
  have horder : node ∉ order := fun hm => by
    have h1 := (h.done node).2 hm
    have h2 := (h.active node).2 List.mem_cons_self
    simp [h1] at h2
  obtain ⟨hk, hinside⟩ := List.cons_subset.1 h.inside
  refine ⟨fun x => ?_, fun x => ?_, hdistinct, hinside, ⟨horder, hnext, h.ordered⟩,
    List.cons_subset.2 ⟨hk, h.left⟩⟩
  · rw [Entries.find?_put]
    by_cases hx : node = x
    · subst hx
      simp [hway]
    · simp [hx, h.active x, Ne.symm hx]
  · rw [Entries.find?_put, List.mem_cons]
    by_cases hx : node = x
    · simp [hx]
    · simp [hx, h.done x, Ne.symm hx]

theorem Searched.way_length_le (h : Searched es way marks order) :
    way.length ≤ (keys es).length :=
  (List.subperm_of_subset h.distinct h.inside).length_le

/-- Visiting several names one after the other, when one visit keeps the invariant. -/
theorem foldlM_ok {f : List (String × Mark) → String → Except (List String) (List (String × Mark))}
    (step : ∀ {marks marks' order node}, Searched es way marks order → node ∈ keys es →
      f marks node = .ok marks' →
      ∃ new, Searched es way marks' (new ++ order) ∧ node ∈ new ++ order)
    {names : List String} (hnames : names ⊆ keys es) (h : Searched es way marks order)
    (hf : names.foldlM f marks = .ok marks') :
    ∃ new, Searched es way marks' (new ++ order) ∧ names ⊆ new ++ order := by
  induction names generalizing marks order with
  | nil =>
    obtain rfl : marks = marks' := by simpa [pure, Except.pure] using hf
    exact ⟨[], by simpa using h, by simp⟩
  | cons n r ih =>
    obtain ⟨hn, hr⟩ := List.cons_subset.1 hnames
    rw [List.foldlM_cons] at hf
    obtain ⟨m, hv, hf⟩ := Outcome.bind_eq_ok.1 hf
    obtain ⟨new₁, h₁, hn₁⟩ := step h hn hv
    obtain ⟨new₂, h₂, hr₂⟩ := ih hr h₁ hf
    refine ⟨new₂ ++ new₁, by simpa using h₂, List.cons_subset.2 ⟨?_, by simpa using hr₂⟩⟩
    simpa using Or.inr (List.mem_append.1 hn₁)

/-- A visit that finds no cycle leaves the name, and keeps the invariant. The fuel counts the names
that may still come on the way. -/
theorem visit_ok (hes : ∀ x, next es x ⊆ keys es) {fuel : Nat}
    (hfuel : (keys es).length < fuel + way.length) (h : Searched es way marks order)
    (hk : node ∈ keys es) (hv : visit es fuel way marks node = .ok marks') :
    ∃ new, Searched es way marks' (new ++ order) ∧ node ∈ new ++ order := by
  induction fuel generalizing way marks marks' order node with
  | zero =>
    have := h.way_length_le
    omega
  | succ fuel ih =>
    unfold visit at hv
    split at hv
    · rename_i hdone
      obtain rfl : marks = marks' := by simpa using hv
      exact ⟨[], by simpa using h, by simpa using (h.done node).1 hdone⟩
    · simp at hv
    · rename_i hnone
      have hstep : ∀ {marks marks' order n}, Searched es (node :: way) marks order → n ∈ keys es →
          visit es fuel (node :: way) marks n = .ok marks' →
          ∃ new, Searched es (node :: way) marks' (new ++ order) ∧ n ∈ new ++ order :=
        fun h hn hv => ih (by simp only [List.length_cons]; omega) h hn hv
      obtain ⟨m, hfold, hm⟩ := Outcome.bind_eq_ok.1 hv
      obtain ⟨new, h', hnext⟩ := foldlM_ok hstep (hes node) (h.enter hnone hk) hfold
      obtain rfl : Entries.put node .done m = marks' := by simpa [pure, Except.pure] using hm
      exact ⟨node :: new, h'.leave hnext, by simp⟩

end Searched

/-! ## The references of bindings -/

section Bindings

variable {bs : List (String × Schema)}

theorem keys_edges (bs : List (String × Schema)) : keys (edges bs) = keys bs := by
  simp [edges, keys]

theorem next_map (g : Schema → List String) (bs : List (String × Schema)) (x : String) :
    next (bs.map fun e => (e.1, g e.2)) x = ((Entries.find? x bs).map g).getD [] := by
  induction bs with
  | nil => rfl
  | cons e r ih =>
    by_cases he : e.1 = x
    · simp [next, Entries.find?, he]
    · simpa [next, Entries.find?, he] using ih

/-- The references of a bound name are the unguarded ones of its type that are bound as well. -/
theorem mem_next_edges {x y : String} : y ∈ next (edges bs) x ↔
    ∃ t, Entries.find? x bs = some t ∧ y ∈ t.unguarded ∧ y ∈ keys bs := by
  have h := next_map (fun t => t.unguarded.filter fun r => Entries.has r bs) bs x
  rw [show next (edges bs) x = _ from h]
  cases Entries.find? x bs with
  | none => simp
  | some t => simp [Entries.has_iff_mem_keys]

theorem next_edges_subset (bs : List (String × Schema)) (x : String) :
    next (edges bs) x ⊆ keys (edges bs) := by
  intro y hy
  obtain ⟨t, -, -, hk⟩ := mem_next_edges.1 hy
  rwa [keys_edges]

/-- **No cycle, so an order.** When the search finds no cycle, the bound names can be ordered. -/
theorem exists_ordered (h : find? bs = none) :
    ∃ order, Ordered (edges bs) order ∧ order ⊆ keys bs ∧ keys bs ⊆ order := by
  cases hf : (keys (edges bs)).foldlM (visit (edges bs) (bs.length + 1) []) [] with
  | error c => simp [find?, hf] at h
  | ok marks =>
    have hfuel : (keys (edges bs)).length < bs.length + 1 + ([] : List String).length := by
      simp [edges, keys]
    obtain ⟨order, ho, hall⟩ := foldlM_ok
      (fun h hk hv => visit_ok (next_edges_subset bs) hfuel h hk hv) (List.Subset.refl _)
      Searched.start hf
    rw [List.append_nil] at ho hall
    exact ⟨order, ho.ordered, keys_edges bs ▸ ho.left, keys_edges bs ▸ hall⟩

/-- A rank of the bound names: positive, at most the number of bindings, and smaller for a name that
is referred to without a guard. -/
structure IsRank (bs : List (String × Schema)) (r : String → Nat) : Prop where
  pos : ∀ {n t}, Entries.find? n bs = some t → 0 < r n
  le : ∀ n, r n ≤ bs.length
  lt : ∀ {n t m}, Entries.find? n bs = some t → m ∈ t.unguarded → m ∈ keys bs → r m < r n

/-- **No cycle, so a rank.** -/
theorem exists_rank (h : find? bs = none) : ∃ r, IsRank bs r := by
  obtain ⟨order, ho, hin, hall⟩ := exists_ordered h
  have hmem : ∀ {n t}, Entries.find? n bs = some t → n ∈ order := by
    intro n t hn
    apply hall
    by_contra hk
    rw [(Entries.find?_eq_none_iff n bs).2 hk] at hn
    cases hn
  refine ⟨rank order, fun hn => rank_pos (hmem hn), fun n => ?_, fun hn hm hk => ?_⟩
  · calc rank order n ≤ order.length := rank_le_length order n
      _ ≤ (keys bs).length := (List.subperm_of_subset ho.nodup hin).length_le
      _ = bs.length := by simp [keys]
  · exact ho.rank_lt (hmem hn) (mem_next_edges.2 ⟨_, hn, hm, hk⟩)

end Bindings

end Conform.Cycle
