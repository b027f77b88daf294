import Conform.Proofs.Failure
import Conform.Proofs.Validate.Enough
import Conform.Proofs.Validate.First
import Conform.Proofs.Validate.Origin

/-!
# Where a failure points

A failure has a path, and the path leads to the value that is at fault: the one that a call of the walk
was about when it failed. The same is true of the causes, which come from calls about the same value or
about values further inside.

* `Call.Says`, `Call.Explains`: what a failure says about the call that failed;
* `Call.Raised c x d`: in the walk of `c` it was the call `d` that failed with `x`;
* `Call.Fails.cases`: a call fails by itself, or because a call that it makes does;
* `Call.Raised.lift`: what a nested call raised is raised by the call around it, further down;
* `failure_points_at_cause`: the main statement.
-/

namespace Conform.Validate

open Entries (keys)

namespace Call

/-- The validation of the value fails. -/
def Fails (c : Call) (x : Failure) : Prop := validateIn c.scope c.type c.value = .error x

/-- What a message says about a call, by the kind of the failure. -/
def Says (c : Call) (message : String) : FailureKind → Prop
  | .typeMismatch => ∃ text, message = text ++ c.value.describe
  | .coercionFailure =>
    (∃ s, c.value = .str s) ∧ ∃ text, message = text ++ c.value.describe
  | .literalMismatch => ∃ text, message = text ++ c.value.describe
  | .missingRequiredField =>
    ∃ m k, c.value = .record m ∧ k ∉ keys m ∧ message = "missing required field '" ++ k ++ "'"
  | .unknownField =>
    ∃ m k, c.value = .record m ∧ k ∈ keys m ∧ message = "unknown field '" ++ k ++ "'"
  | .refinementViolation => ∃ t cs, c.type = .refined t cs ∧ ∃ k ∈ cs, message = k.complaint
  | .unresolvedReference => ∃ n, c.type = .ref n ∧ c.scope.resolve n = none
  | .noUnionBranchMatched => ∃ ts, c.type = .union ts

/-- The failure is about the type and the value of the call. It has a cause if the type is a union with
branches, and then the cause lies at the value or further inside, and its message is told. -/
structure Explains (c : Call) (x : Failure) : Prop where
  told : c.Says x.message x.kind
  caused : x.cause.isSome ↔ x.kind = .noUnionBranchMatched ∧ ∃ ts, c.type = .union ts ∧ ts ≠ []
  first : ∀ y, x.cause = some y →
    x.path <+: y.path ∧ x.message = "no union branch matched: " ++ y.message

/-- In the walk of `c` it was the call `d` that failed: its value stands where the failure points, and
on its own it fails in the same way, at the top of its value. -/
structure Raised (c : Call) (x : Failure) (d : Call) : Prop where
  reached : c.Reaches d
  located : c.value.At x.path d.value
  alone : ∃ y, d.Fails y ∧ y.path = [] ∧ y.under x.path = x
  explained : d.Explains x

variable {c d e : Call} {x y : Failure} {p : Path}

/-! ## What a call says by itself -/

theorem explains_here {k : FailureKind} {message : String} (hk : k ≠ .noUnionBranchMatched)
    (h : c.Says message k) : c.Explains (.here k message) where
  told := h
  caused := by simp [Failure.here, hk]
  first := by simp [Failure.here]

theorem explains_coerce {s : Scope} {k : Kind} {v : Value} {x : CoerceError}
    (hx : coerce k v = .error x) : Explains ⟨s, .primitive k, v⟩ (.ofCoerce x) := by
  rcases Coerce.coerce_eq_error hx with rfl | ⟨htext, rfl⟩
  · exact explains_here (by simp [Coerce.mismatch]) ⟨_, rfl⟩
  · exact explains_here (by simp [Coerce.unreadable]) ⟨htext, _, rfl⟩

theorem explains_noBranch {s : Scope} {ts : List Schema} {v : Value} {r : Option Failure}
    (hr : r.isSome ↔ ts ≠ []) : Explains ⟨s, .union ts, v⟩ (.noBranch r) := by
  cases r with
  | none =>
    exact ⟨⟨ts, rfl⟩, by simpa [Failure.noBranch, Failure.here] using hr,
      by simp [Failure.noBranch, Failure.here]⟩
  | some y => exact ⟨⟨ts, rfl⟩, by simpa [Failure.noBranch] using hr, by simp [Failure.noBranch]⟩

theorem Explains.under (h : c.Explains x) (p : Path) : c.Explains (x.under p) where
  told := by simpa using h.told
  caused := by simpa using h.caused
  first := by
    intro y hy
    rw [Failure.cause_under, Option.map_eq_some_iff] at hy
    obtain ⟨z, hz, rfl⟩ := hy
    simpa using h.first z hz

/-! ## The step -/

theorem fails_iff {s : Scope} (hs : s.Built) {t : Schema} {v : Value} :
    Fails ⟨s, t, v⟩ x ↔ walk (ask s) t v = .error x := by
  rw [Fails, walk_ask hs]

/-- **How a call can fail.** It fails by itself, with a failure at the top of its value whose cause, if
it has one, is the failure of a nested call about the same value; or a nested call fails, and the
failure is passed on. -/
theorem Fails.cases (hc : c.scope.Built) (h : c.Fails x) :
    (x.path = [] ∧ c.Explains x ∧
      ∀ y, x.cause = some y → ∃ d, c.Nests d ∧ d.value = c.value ∧ d.Fails y) ∨
    ∃ d p y, c.Nests d ∧ c.value.At p d.value ∧ d.Fails y ∧ y.under p = x := by
  obtain ⟨s, t, v⟩ := c
  rw [fails_iff hc] at h
  -- all failures that a call raises by itself have this form, but for those of a union
  have here : ∀ {k message}, x = .here k message → k ≠ .noUnionBranchMatched →
      Says ⟨s, t, v⟩ message k → x.path = [] ∧ Explains ⟨s, t, v⟩ x ∧
        ∀ y, x.cause = some y → ∃ d, Nests ⟨s, t, v⟩ d ∧ d.value = v ∧ d.Fails y := by
    rintro k message rfl hk hsays
    exact ⟨rfl, explains_here hk hsays, by simp [Failure.here]⟩
  cases t with
  | primitive k =>
    obtain ⟨y, hy, rfl⟩ := Outcome.mapError_eq_error.1 h
    exact Or.inl ⟨rfl, explains_coerce hy, by simp [Failure.ofCoerce, Failure.here]⟩
  | literal ms =>
    rw [walk_literal] at h
    split at h
    · cases h
    · exact Or.inl (here (Except.error.inj h).symm (by simp) ⟨_, rfl⟩)
  | nullable t =>
    rw [walk_nullable] at h
    split at h
    · cases h
    · rename_i hv
      exact Or.inr ⟨_, [], x, .nullable (by simpa using hv), .here, (fails_iff hc).2 h, x.under_nil⟩
  | union ts =>
    rcases walk_union_error h with ⟨rfl, rfl⟩ | ⟨t, rest, y, rfl, hy, rfl⟩
    · exact Or.inl ⟨rfl, explains_noBranch (by simp), by simp [Failure.noBranch, Failure.here]⟩
    · refine Or.inl ⟨rfl, explains_noBranch (by simp), fun z hz => ?_⟩
      obtain rfl : y = z := by simpa [Failure.noBranch] using hz
      exact ⟨⟨s, t, v⟩, .branch List.mem_cons_self, rfl, (fails_iff hc).2 hy⟩
  | array t =>
    rcases walk_array_error h with hx | ⟨xs, i, u, y, rfl, hu, hy, hx⟩
    · exact Or.inl (here hx (by simp) ⟨_, rfl⟩)
    · exact Or.inr ⟨⟨s, t, u⟩, _, y, .item (List.mem_of_getElem? hu), .item hu .here,
        (fails_iff hc).2 hy, hx⟩
  | record fs ex =>
    rcases walk_record_error h with hx | ⟨m, rfl, ⟨f, hf, hx⟩ | ⟨en, hen, hx⟩⟩
    · exact Or.inl (here hx (by simp) ⟨_, rfl⟩)
    · cases hx with
      | missing _ hm => exact Or.inl (here rfl (by simp) ⟨m, f.name, rfl, hm, rfl⟩)
      | value hu hy =>
        exact Or.inr ⟨⟨s, f.type, _⟩, _, _, .field hf hu, .field (Entries.mem_of_find? hu) .here,
          (fails_iff hc).2 hy, rfl⟩
    · have hmem : en ∈ m := (mem_undeclared.1 hen).1
      cases hx with
      | unknown =>
        exact Or.inl (here rfl (by simp) ⟨m, en.1, rfl, Entries.mem_keys_of_mem hmem, rfl⟩)
      | value hy =>
        exact Or.inr ⟨⟨s, _, en.2⟩, _, _, .extra hen, .field hmem .here, (fails_iff hc).2 hy, rfl⟩
  | refined t cs =>
    rcases walk_refined_error h with h | ⟨k, hk, hx⟩
    · exact Or.inr ⟨⟨s, t, v⟩, [], x, .base, .here, (fails_iff hc).2 h, x.under_nil⟩
    · exact Or.inl (here hx (by simp) ⟨t, cs, rfl, k, hk, rfl⟩)
  | ref n =>
    rw [walk_expand, ask] at h
    split at h
    · rename_i t home hr
      exact Or.inr ⟨⟨home, t, v⟩, [], x, .target hr, .here, h, x.under_nil⟩
    · rename_i hr
      exact Or.inl (here (Except.error.inj h).symm (by simp) ⟨n, rfl, hr⟩)

/-! ## The run -/

/-- What a nested call raised is raised by the call around it, below the path to its value. -/
theorem Raised.lift (hd : c.Nests d) (hat : c.value.At p d.value) (h : d.Raised y e) :
    c.Raised (y.under p) e where
  reached := .head hd h.reached
  located := by
    rw [Failure.path_under]
    exact hat.append h.located
  alone := by
    obtain ⟨z, hz, hpath, hy⟩ := h.alone
    refine ⟨z, hz, hpath, ?_⟩
    rw [Failure.path_under, ← Failure.under_under, hy]
  explained := h.explained.under p

theorem Nests.built (h : c.Nests d) (hc : c.scope.Built) : d.scope.Built := by
  rcases h.cases with ⟨hs, -⟩ | ⟨-, n, -, hr⟩
  · exact hs ▸ hc
  · exact (hc.home hr).1

/-- **Every failure of the chain is raised by some call.** The induction is along the calls. -/
theorem exists_raised (hc : c.scope.Built) (h : c.Fails x) :
    ∀ y ∈ x :: x.causes, ∃ d, c.Raised y d := by
  have hacc : Acc (fun d c => Nests c d) c := acc_of_built hc c.type c.value
  induction hacc generalizing x with
  | intro c _ ih =>
    intro y hy
    rcases h.cases hc with ⟨hpath, hexplains, hcause⟩ | ⟨d, p, z, hd, hat, hz, rfl⟩
    · -- raised by the call itself: the causes are those of a nested call, about the same value
      rcases List.mem_cons.1 hy with rfl | hy
      · exact ⟨c, .refl, hpath ▸ .here, ⟨y, h, hpath, by rw [hpath, Failure.under_nil]⟩, hexplains⟩
      · cases hx : x.cause with
        | none =>
          rw [Failure.causes_eq, hx] at hy
          simp at hy
        | some z =>
          obtain ⟨d, hd, hvalue, hz⟩ := hcause z hx
          have hmem : y ∈ z :: z.causes := by rwa [Failure.causes_eq, hx] at hy
          obtain ⟨e, he⟩ := ih d hd (hd.built hc) hz y hmem
          have hlift : c.Raised (y.under []) e := he.lift hd (hvalue ▸ .here)
          exact ⟨e, y.under_nil ▸ hlift⟩
    · -- passed on: the whole chain moves below the path
      rw [Failure.causes_under, ← List.map_cons, List.mem_map] at hy
      obtain ⟨y, hy, rfl⟩ := hy
      obtain ⟨e, he⟩ := ih d hd (hd.built hc) hz y hy
      exact ⟨e, he.lift hd hat⟩

end Call

/-- **A failure points at its cause.** Whatever the type, in a built scope or with names that mean
nothing: if validation fails, the failure and all its causes were each raised by a call about the value
at the path that it gives, which is the only value there when no record of the input repeats a name.
In particular the end of the chain of causes points at a part of the input. -/
theorem failure_points_at_cause {s : Scope} {t : Schema} {v : Value} {x : Failure}
    (h : s.Built ∧ validateIn s t v = .error x ∨ s = .void ∧ validate t v = .error x) :
    (∀ y ∈ x :: x.causes, ∃ d, Call.Raised ⟨s, t, v⟩ y d ∧
      (v.Distinct → ∀ u, v.At y.path u → u = d.value)) ∧
    ∃ d, Call.Raised ⟨s, t, v⟩ x.rootCause d := by
  have hfails : s.Built ∧ Call.Fails ⟨s, t, v⟩ x := by
    rcases h with h | ⟨rfl, h⟩
    · exact h
    · exact ⟨Scope.void_built, (validate_eq_validateIn t v).symm.trans h⟩
  have hraised := Call.exists_raised hfails.1 hfails.2
  refine ⟨fun y hy => ?_, hraised _ x.rootCause_mem⟩
  obtain ⟨d, hd⟩ := hraised y hy
  exact ⟨d, hd, fun hv u hu => hv.at_unique hu hd.located⟩

/-- A list with the key `a` in each record, but for the second one. -/
def ragged : Value := .list [.record [("a", .int 1)], .record [("b", .null)]]

/-- A leaf that does not read as a whole number is the reason why a record is no walk; and a field is
required and absent. -/
theorem failure_points_at_cause_park :
    Builder.park.scope.Built ∧
    (∃ x, validateIn Builder.park.scope (.ref "Walk") (.record [("leaf", .str "x")]) = .error x ∧
      x.kind = .noUnionBranchMatched ∧ x.path = [] ∧
      x.rootCause.kind = .coercionFailure ∧ x.rootCause.path = [.field "leaf"] ∧
      ∃ d, Call.Raised ⟨Builder.park.scope, .ref "Walk", .record [("leaf", .str "x")]⟩
        x.rootCause d ∧ d.value = .str "x") ∧
    ∃ x, validate (.array (.record [⟨"a", .primitive .int, true⟩] .closed)) ragged = .error x ∧
      x.kind = .missingRequiredField ∧ x.path = [.index 1] ∧
      ∃ d, Call.Raised ⟨.void, .array (.record [⟨"a", .primitive .int, true⟩] .closed), ragged⟩ x d ∧
        d.value = .record [("b", .null)] := by
  obtain ⟨x, hx, hkind, hpath, hroot, hleaf⟩ : ∃ x,
      validateIn Builder.park.scope (.ref "Walk") (.record [("leaf", .str "x")]) = .error x ∧
      x.kind = .noUnionBranchMatched ∧ x.path = [] ∧
      x.rootCause.kind = .coercionFailure ∧ x.rootCause.path = [.field "leaf"] :=
    ⟨_, rfl, rfl, rfl, rfl, rfl⟩
  obtain ⟨y, hy, hmissing, hindex⟩ : ∃ x,
      validate (.array (.record [⟨"a", .primitive .int, true⟩] .closed)) ragged = .error x ∧
      x.kind = .missingRequiredField ∧ x.path = [.index 1] := ⟨_, rfl, rfl, rfl⟩
  refine ⟨Builder.park_built, ⟨x, hx, hkind, hpath, hroot, hleaf, ?_⟩, ⟨y, hy, hmissing, hindex, ?_⟩⟩
  · obtain ⟨-, d, hd⟩ := failure_points_at_cause (Or.inl ⟨Builder.park_built, hx⟩)
    have hat := hleaf ▸ hd.located
    cases hat with
    | field hv h =>
      cases h
      exact ⟨d, hd, by simpa using hv⟩
  · obtain ⟨hchain, -⟩ := failure_points_at_cause (Or.inr ⟨rfl, hy⟩)
    obtain ⟨d, hd, -⟩ := hchain y List.mem_cons_self
    have hat := hindex ▸ hd.located
    cases hat with
    | item hv h =>
      cases h
      exact ⟨d, hd, (Option.some.inj hv).symm⟩

end Conform.Validate
