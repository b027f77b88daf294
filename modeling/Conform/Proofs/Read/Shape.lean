import Conform.Proofs.Entries
import Conform.Proofs.Outcome
import Conform.Read.Shape

/-!
# Reading shapes

Two sides of reading a document of a shape. Parts that stand in order are taken up one after the
other, and a variant that is named in front is the one that is read. And what a shape starts with and
keeps at every step, for whatever names and documents, holds at the end of all that it reads.

* `Variants.ofJson_tagged`, `Shape.Takes.ofMembers`: what is read from documents of the right form;
* `Variants.exists_decode`, `Shape.Keeps.ofBody`: what is known of all that is read.
-/

namespace Conform.Read

open Entries (keys)

variable {σ α : Type}

/-! ## Lists -/

theorem asList_map {item : Json → Except Fault α} {doc : α → Json} {as : List α}
    (h : ∀ a ∈ as, item (doc a) = .ok a) : asList item (.arr (as.map doc)) = .ok as := by
  rw [asList, Outcome.mapM_eq_ok, List.forall₂_map_left_iff]
  exact List.forall₂_same.2 h

/-- What holds of all that is read as an item holds of the items of a list. -/
theorem forall_of_asList {item : Json → Except Fault α} {Q : α → Prop}
    (hitem : ∀ {j a}, item j = .ok a → Q a) {j : Json} {as : List α} (h : asList item j = .ok as) :
    ∀ a ∈ as, Q a := by
  cases j with
  | arr xs =>
    rw [asList, Outcome.mapM_eq_ok] at h
    induction h with
    | nil => simp
    | cons hx _ ih => exact List.forall_mem_cons.2 ⟨hitem hx, ih⟩
  | _ => cases h

/-! ## Variants -/

namespace Variants

variable {v : Variants α}

theorem findTag_some {t : String} {m : List (String × Json)} (hm : v.tag ∉ keys m) :
    v.findTag (some t) m = .ok t := by
  induction m with
  | nil => rfl
  | cons e m ih =>
    obtain ⟨hne, hm⟩ := not_or.1 (List.mem_cons.not.1 hm)
    rw [findTag, if_neg (Ne.symm hne), ih hm]

/-- **The variant that is named in front is read**, from the members behind it. -/
theorem ofJson_tagged {t : String} {m : List (String × Json)} (ht : t ∈ v.known)
    (hm : v.tag ∉ keys m) : v.ofJson (.obj ((v.tag, .str t) :: m)) = v.decode t (.members m) := by
  have hknown : v.variant (.str t) = .ok t := if_pos (List.contains_iff_mem.2 ht)
  have hfound : v.findTag none ((v.tag, .str t) :: m) = .ok t := by
    rw [findTag, if_pos rfl, hknown]
    exact findTag_some hm
  have hrest : ((v.tag, Json.str t) :: m).filter (·.1 != v.tag) = m := by
    rw [List.filter_cons_of_neg (by simp), List.filter_eq_self]
    intro e he
    have hne : e.1 ≠ v.tag := fun heq => hm (heq ▸ Entries.mem_keys_of_mem he)
    simpa using hne
  rw [ofJson, hfound, hrest]
  rfl

/-- A term is read as one of its variants. -/
theorem exists_decode {j : Json} {a : α} (h : v.ofJson j = .ok a) : ∃ t b, v.decode t b = .ok a := by
  unfold ofJson at h
  split at h
  · obtain ⟨t, -, h⟩ := Outcome.bind_eq_ok.1 h
    exact ⟨t, _, h⟩
  · cases h
  · obtain ⟨t, -, h⟩ := Outcome.bind_eq_ok.1 h
    exact ⟨t, _, h⟩
  · cases h

end Variants

/-! ## Structures -/

namespace Shape

variable {s : Shape σ α}

/-- Members are taken up one after the other, from one state to another. -/
inductive Takes (s : Shape σ α) : σ → List (String × Json) → σ → Prop
  | nil {st} : Takes s st [] st
  | cons {st st₁ st' k j m} (hstep : s.step k st j = .ok st₁) (hrest : Takes s st₁ m st') :
    Takes s st ((k, j) :: m) st'

theorem Takes.members {seen : List String} {st st' : σ} {m : List (String × Json)}
    (h : s.Takes st m st') (hknown : ∀ k ∈ keys m, k ∈ s.known) (hnodup : (keys m).Nodup)
    (hseen : ∀ k ∈ keys m, k ∉ seen) : s.members seen st m = .ok st' := by
  induction h generalizing seen with
  | nil => rfl
  | @cons st st₁ st' k j m hstep _ ih =>
    have hkeys : keys ((k, j) :: m) = k :: keys m := rfl
    rw [hkeys] at hknown hnodup hseen
    obtain ⟨hk, hknown⟩ := List.forall_mem_cons.1 hknown
    obtain ⟨hnot, hnodup⟩ := List.nodup_cons.1 hnodup
    obtain ⟨hnew, hseen⟩ := List.forall_mem_cons.1 hseen
    have hrest : s.members (k :: seen) st₁ m = .ok st' := by
      refine ih hknown hnodup fun k' hk' hmem => ?_
      rcases List.mem_cons.1 hmem with rfl | hmem
      · exact hnot hk'
      · exact hseen k' hk' hmem
    rw [Shape.members, if_pos (List.contains_iff_mem.2 hk), if_neg (mt List.contains_iff_mem.1 hnew),
      hstep]
    exact hrest

/-- **A structure is read from its parts**, when all of them are there in order. -/
theorem Takes.ofMembers {st : σ} {m : List (String × Json)} {a : α} (h : s.Takes s.start m st)
    (hkeys : keys m = s.known) (hnodup : s.known.Nodup)
    (hfinish : s.finish .missingField st = .ok a) : s.ofMembers m = .ok a := by
  rw [Shape.ofMembers, h.members (fun k hk => hkeys ▸ hk) (hkeys ▸ hnodup) fun _ _ => List.not_mem_nil]
  exact hfinish

/-- What a shape starts with and keeps at every step. -/
structure Keeps (s : Shape σ α) (P : σ → Prop) : Prop where
  start : P s.start
  step : ∀ {k st j st'}, P st → s.step k st j = .ok st' → P st'

section Keeps

variable {P : σ → Prop} (hs : s.Keeps P)

include hs

theorem Keeps.members {seen : List String} {st st' : σ} {m : List (String × Json)} (hst : P st)
    (h : s.members seen st m = .ok st') : P st' := by
  induction m generalizing seen st with
  | nil => exact Except.ok.inj h ▸ hst
  | cons e m ih =>
    rw [Shape.members] at h
    split at h
    · split at h
      · cases h
      · obtain ⟨st₁, hst₁, h⟩ := Outcome.bind_eq_ok.1 h
        exact ih (hs.step hst hst₁) h
    · exact ih hst h

theorem Keeps.elements {ks : List String} {st st' : σ} {xs left : List Json} (hst : P st)
    (h : s.elements ks st xs = .ok (st', left)) : P st' := by
  induction ks generalizing st xs with
  | nil =>
    cases Except.ok.inj h
    exact hst
  | cons k ks ih =>
    cases xs with
    | nil =>
      cases Except.ok.inj h
      exact hst
    | cons j xs =>
      obtain ⟨st₁, hst₁, h⟩ := Outcome.bind_eq_ok.1 h
      exact ih (hs.step hst hst₁) h

/-- **What is read comes out of parts that have the property.** -/
theorem Keeps.ofBody {b : Body} {a : α} (h : s.ofBody b = .ok a) :
    ∃ absent st, P st ∧ s.finish absent st = .ok a := by
  cases b with
  | members m =>
    obtain ⟨st, hst, h⟩ := Outcome.bind_eq_ok.1 h
    exact ⟨_, st, hs.members hs.start hst, h⟩
  | elements xs =>
    obtain ⟨⟨st, left⟩, hst, h⟩ := Outcome.bind_eq_ok.1 h
    obtain ⟨a', ha', h⟩ := Outcome.bind_eq_ok.1 h
    split at h
    · cases Except.ok.inj h
      exact ⟨_, st, hs.elements hs.start hst, ha'⟩
    · cases h

theorem Keeps.ofJson {j : Json} {a : α} (h : s.ofJson j = .ok a) :
    ∃ absent st, P st ∧ s.finish absent st = .ok a := by
  cases j with
  | arr xs => exact hs.ofBody (b := .elements xs) h
  | obj m => exact hs.ofBody (b := .members m) h
  | _ => cases h

end Keeps

end Shape

end Conform.Read
