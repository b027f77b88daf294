import Conform.Proofs.Scope.Accepted
import Conform.Proofs.Validate.Alike

/-!
# A name that nothing refers to

What a name is bound to matters only to the types that refer to it. Two scopes that differ in one name,
in the scopes themselves or in scopes around them, give every other name the same meaning, as long as
no type that is bound in the scopes from there inwards refers to it.

* `Scope.DiffersAt n`: scopes that differ in the name `n`, to which their types do not refer;
* `walk_differsAt`: the walks in both scopes have equal outcomes, by induction along the calls;
* `agree_of_differsAt`: the validators of all other names agree;
* `Builder.WellFormed.differsAt`: when bindings stay well formed in such a scope.
-/

namespace Conform

open Entries (keys)

namespace Scope

/-- The name has a validator in both scopes or in none, with the same fault; and the validators give the
same outcomes, the same output or the same failure. -/
def Agree (s s' : Scope) (k : String) : Prop :=
  (∃ x, s.compile k = .error x ∧ s'.compile k = .error x) ∨
    ∃ w w', s.compile k = .ok w ∧ s'.compile k = .ok w' ∧ ∀ v, w'.validate v = w.validate v

/-- No type that is bound refers to the name. -/
def Unused (n : String) (bs : List (String × Schema)) : Prop := ∀ e ∈ bs, n ∉ e.2.references

/-- The scopes differ in what `n` is bound to, here or in scopes around, and the types that are bound
from there inwards do not refer to `n`. -/
inductive DiffersAt (n : String) : Scope → Scope → Prop
  | here (name parent) {bs bs'} (hfind : ∀ k, k ≠ n → Entries.find? k bs' = Entries.find? k bs)
      (hbs : Unused n bs) (hbs' : Unused n bs') : DiffersAt n ⟨name, parent, bs⟩ ⟨name, parent, bs'⟩
  | around (name) {bs p p'} (h : DiffersAt n p p') (hbs : Unused n bs) :
      DiffersAt n ⟨name, some p, bs⟩ ⟨name, some p', bs⟩

section DiffersAt

variable {n k : String} {s s' : Scope}

theorem DiffersAt.symm (h : s.DiffersAt n s') : s'.DiffersAt n s := by
  induction h with
  | here name parent hfind hbs hbs' => exact .here name parent (fun k hk => (hfind k hk).symm) hbs' hbs
  | around name _ hbs ih => exact .around name ih hbs

theorem DiffersAt.name (h : s.DiffersAt n s') : s'.name = s.name := by
  cases h <;> rfl

/-- **Another name means the same type**, of the same scope or of scopes that differ at `n` and bind a
type that does not refer to it. -/
theorem DiffersAt.resolve (h : s.DiffersAt n s') (hk : k ≠ n) :
    (s.resolve k = none ∧ s'.resolve k = none) ∨
    ∃ t home home', s.resolve k = some (t, home) ∧ s'.resolve k = some (t, home') ∧
      (home' = home ∨ home.DiffersAt n home' ∧ n ∉ t.references) := by
  induction h with
  | @here name parent bs bs' hfind hbs hbs' =>
    have hsame : Entries.find? k bs' = Entries.find? k bs := hfind k hk
    cases ht : Entries.find? k bs with
    | some t =>
      refine Or.inr ⟨t, _, _, resolve_of_find? ht, resolve_of_find? (hsame.trans ht), Or.inr ⟨?_, ?_⟩⟩
      · exact .here name parent hfind hbs hbs'
      · exact hbs (k, t) (Entries.mem_of_find? ht)
    | none =>
      -- further out both scopes are the same
      cases parent with
      | none => exact Or.inl ⟨by simp [Scope.resolve, ht], by simp [Scope.resolve, hsame, ht]⟩
      | some p =>
        have hout : ∀ {bs}, Entries.find? k bs = none →
            Scope.resolve k ⟨name, some p, bs⟩ = p.resolve k := by
          intro bs hnone
          rw [Scope.resolve, hnone]
        rw [hout ht, hout (hsame.trans ht)]
        cases p.resolve k with
        | none => exact Or.inl ⟨rfl, rfl⟩
        | some r => exact Or.inr ⟨r.1, r.2, r.2, rfl, rfl, Or.inl rfl⟩
  | @around name bs p p' h hbs ih =>
    cases ht : Entries.find? k bs with
    | some t =>
      refine Or.inr ⟨t, _, _, resolve_of_find? ht, resolve_of_find? ht, Or.inr ⟨?_, ?_⟩⟩
      · exact .around name h hbs
      · exact hbs (k, t) (Entries.mem_of_find? ht)
    | none =>
      rw [Scope.resolve, Scope.resolve, ht]
      exact ih

theorem DiffersAt.isSome (h : s.DiffersAt n s') (hk : k ≠ n) :
    (s'.resolve k).isSome = (s.resolve k).isSome := by
  rcases h.resolve hk with ⟨h₁, h₂⟩ | ⟨t, home, home', h₁, h₂, -⟩ <;> rw [h₁, h₂]
  rfl

end DiffersAt

end Scope

namespace Validate

open Scope (DiffersAt)

/-- **The simulation.** A type that does not refer to `n` is walked alike in scopes that differ at `n`.
The induction is along the calls of the first scope. -/
theorem walk_differsAt {n : String} {c : Call} (hc : c.Legal) :
    ∀ s', s'.Built → c.scope.DiffersAt n s' → n ∉ c.type.references →
      walk (ask c.scope) c.type c.value = walk (ask s') c.type c.value := by
  induction hc using Call.Legal.ind with
  | _ c hc ih =>
    obtain ⟨s, t, v⟩ := c
    intro s' hs' hdiff hn
    refine walk_alike (s := s) t.alike_parts ?_ fun k hk => ?_
    · rintro u _ w hnests ⟨rfl, hu⟩
      exact ih _ hnests s' hs' hdiff fun hmem => hn (Schema.references_of_part hu hmem)
    · subst hk
      show walk (ask s) (.ref k) v = walk (ask s') (.ref k) v
      have hne : k ≠ n := by
        rintro rfl
        exact hn (by simp [Schema.references])
      rcases hdiff.resolve hne with ⟨hnone, -⟩ | ⟨u, home, home', hu, hu', hhome⟩
      · obtain ⟨u, home, hu⟩ := hc.target
        simp [hnone] at hu
      · rw [walk_ref hc.built hu, walk_ref hs' hu']
        rcases hhome with rfl | ⟨hdiff', hnot⟩
        · rfl
        · exact ih _ (.target hu) home' (hs'.home hu').1 hdiff' hnot

/-- **Scopes that differ at `n` agree on all other names.** -/
theorem agree_of_differsAt {s s' : Scope} (hs : s.Built) (hs' : s'.Built) {n k : String}
    (h : s.DiffersAt n s') (hk : k ≠ n) : s.Agree s' k := by
  have hsome : (s'.resolve k).isSome = (s.resolve k).isSome := h.isSome hk
  rw [Scope.Agree, Scope.compile_eq, Scope.compile_eq, hsome, h.name]
  cases hr : (s.resolve k).isSome with
  | false => exact Or.inl ⟨_, rfl, rfl⟩
  | true =>
    refine Or.inr ⟨_, _, rfl, rfl, fun v => ?_⟩
    have hnot : n ∉ (Schema.ref k).references := by simpa [Schema.references] using hk.symm
    rw [Validator.validate, Validator.validate, validateIn_eq_ask hs, validateIn_eq_ask hs']
    exact (walk_differsAt (Call.legal_ref hs hr v) s' hs' h hnot).symm

end Validate

namespace Builder

/-- **Bindings stay well formed** in a scope that differs at `n`, if none of them is new and they do not
refer to `n`. -/
theorem WellFormed.differsAt {b b' : Builder} {n : String} (h : b.WellFormed)
    (hdiff : b.scope.DiffersAt n b'.scope) (hbs : Scope.Unused n b'.bindings)
    (hsub : b'.bindings ⊆ b.bindings)
    (hfind : ∀ {k t}, Entries.find? k b'.bindings = some t → Entries.find? k b.bindings = some t) :
    b'.WellFormed := by
  refine ⟨fun k t ht => h.declared k t (hsub ht), fun k t ht m hm => ?_, fun k hk => ?_⟩
  · have hne : m ≠ n := fun heq => hbs (k, t) ht (heq ▸ Schema.mem_references_iff.2 hm)
    rw [binds_iff, hdiff.isSome hne]
    exact binds_iff.1 (h.bound k t (hsub ht) m hm)
  · have hkeys : keys b'.bindings ⊆ keys b.bindings := List.map_subset _ hsub
    have hle : b'.Leads ≤ b.Leads := by
      rintro x y ⟨t, ht, hexposes, hy⟩
      exact ⟨t, hfind ht, hexposes, hkeys hy⟩
    exact h.acyclic k (Relation.TransGen.mono hle k k hk)

end Builder

end Conform
