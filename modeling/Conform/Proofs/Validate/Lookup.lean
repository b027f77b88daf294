import Conform.Proofs.Validate.Location

/-!
# Every lookup finds a type

The references of a binding are checked once, in the scope that is built. During a walk they are
looked up in the scope that binds the type around them, which changes from call to call. That scope
is always the one they were checked in, so no lookup fails, and no failure of a validation, nor any
of its causes, is about a name that means nothing.
-/

namespace Conform

namespace Failure

/-- Neither the failure nor any of its causes is internal. -/
def External (x : Failure) : Prop := ∀ y ∈ x :: x.causes, y.kind.isInternal = false

end Failure

namespace Validate

/-- A legal call fails with an external failure: the calls that come up in its walk are legal, and none
of them is about a name without a meaning. -/
theorem external_of_error {c : Call} (hc : c.Legal) :
    ∀ x, walk (ask c.scope) c.type c.value = .error x → x.External := by
  intro x hx y hy
  obtain ⟨d, hd⟩ := Call.exists_raised hc.built ((Call.fails_iff hc.built).2 hx) y hy
  have hsays := hd.explained.told
  cases hk : y.kind with
  | unresolvedReference =>
    rw [hk] at hsays
    obtain ⟨n, hn, hr⟩ := hsays
    have hbound := (hd.reached.legal hc).admits.bound n (by simp [hn, Schema.references])
    simp [hr] at hbound
  | _ => rfl

/-- **Every lookup finds a type.** For a validator of a built scope and any value: each name that comes
up in the walk has a meaning in the scope where it is looked up; and if validation fails, neither its
failure nor any of the causes is about a name without a meaning. -/
theorem lookup_never_fails {s : Scope} (hs : s.Built) {n : String} {w : Validator}
    (hw : s.compile n = .ok w) (v : Value) :
    (∀ c : Call, Call.Reaches ⟨w.scope, .ref w.name, v⟩ c → ∀ m, c.type = .ref m →
      (c.scope.resolve m).isSome) ∧
    ∀ x, w.validate v = .error x → ∀ y ∈ x :: x.causes,
      y.kind ≠ .unresolvedReference ∧ y.kind.isInternal = false := by
  obtain ⟨rfl, hn⟩ := compile_ok hw
  have hlegal := Call.legal_ref hs hn v
  refine ⟨fun c hc m hm => ?_, fun x hx y hy => ?_⟩
  · exact (hc.legal hlegal).admits.bound m (by simp [hm, Schema.references])
  · rw [Validator.validate, validateIn_eq_walk hs hlegal.admits] at hx
    have hy' := external_of_error hlegal x hx y hy
    exact ⟨fun hk => by simp [hk, FailureKind.isInternal] at hy', hy'⟩

/-- A value that no branch accepts. -/
theorem lookup_never_fails_park :
    Builder.park.scope.Built ∧
    Builder.park.scope.compile "Walk" = .ok ⟨Builder.park.scope, "Walk"⟩ ∧
    (∀ c : Call, Call.Reaches ⟨Builder.park.scope, .ref "Walk", .bool true⟩ c →
      ∀ m, c.type = .ref m → (c.scope.resolve m).isSome) ∧
    ∃ x, validateIn Builder.park.scope (.ref "Walk") (.bool true) = .error x ∧
      ∀ y ∈ x :: x.causes, y.kind ≠ .unresolvedReference ∧ y.kind.isInternal = false := by
  have h := lookup_never_fails Builder.park_built (n := "Walk") rfl (.bool true)
  exact ⟨Builder.park_built, rfl, h.1, _, rfl, h.2 _ rfl⟩

end Validate

end Conform
