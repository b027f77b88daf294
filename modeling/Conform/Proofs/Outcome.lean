import Mathlib.Data.List.Forall2

/-!
# Outcomes taken apart

What a combined outcome says about its parts: `bind`, `map` and `mapError` on results that may fail,
two outcomes that do not depend on each other, and lists of them.
-/

namespace Conform.Outcome

variable {ε ε' α β γ : Type}

theorem bind_eq_ok {x : Except ε α} {f : α → Except ε β} {b : β} :
    x >>= f = .ok b ↔ ∃ a, x = .ok a ∧ f a = .ok b := by
  cases x <;> simp [bind, Except.bind]

theorem bind_eq_error {x : Except ε α} {f : α → Except ε β} {e : ε} :
    x >>= f = .error e ↔ x = .error e ∨ ∃ a, x = .ok a ∧ f a = .error e := by
  cases x <;> simp [bind, Except.bind]

theorem map_eq_ok {x : Except ε α} {f : α → β} {b : β} :
    x.map f = .ok b ↔ ∃ a, x = .ok a ∧ f a = b := by
  cases x <;> simp [Except.map]

/-- The results of an outcome under a function, when those of the outcome are known and the function
carries the one property to the other. -/
theorem map_iff {x : Except ε α} {f : α → β} {P : α → Prop} {Q : β → Prop}
    (hx : ∀ {a}, x = .ok a ↔ P a) (hf : ∀ {a}, P a → Q (f a)) (hQ : ∀ {b}, Q b → ∃ a, P a ∧ f a = b)
    {b : β} : x.map f = .ok b ↔ Q b := by
  simp only [map_eq_ok, hx]
  constructor
  · rintro ⟨a, ha, rfl⟩
    exact hf ha
  · exact hQ

theorem map_eq_error {x : Except ε α} {f : α → β} {e : ε} : x.map f = .error e ↔ x = .error e := by
  cases x <;> simp [Except.map]

theorem both_eq_ok {x : Except ε α} {y : Except ε β} {f : α → β → γ} {c : γ} :
    (do
      let a ← x
      let b ← y
      return f a b) = .ok c ↔ ∃ a b, x = .ok a ∧ y = .ok b ∧ f a b = c := by
  cases x <;> cases y <;> simp [bind, Except.bind, pure, Except.pure]

theorem mapM_eq_ok {f : α → Except ε β} {xs : List α} {ys : List β} :
    xs.mapM f = .ok ys ↔ List.Forall₂ (fun a b => f a = .ok b) xs ys := by
  induction xs generalizing ys with
  | nil => simp [pure, Except.pure, eq_comm]
  | cons a xs ih =>
    rw [List.mapM_cons, both_eq_ok, List.forall₂_cons_left_iff]
    simp only [ih, eq_comm (a := _ :: _), exists_and_left]

/-- The results of outcomes one after the other are the results of the single ones. -/
theorem mem_of_mapM_eq_ok {f : α → Except ε β} {xs : List α} {ys : List β} (h : xs.mapM f = .ok ys)
    {b : β} : b ∈ ys ↔ ∃ a ∈ xs, f a = .ok b := by
  have hpairs := mapM_eq_ok.1 h
  clear h
  induction hpairs with
  | nil => simp
  | cons hab _ ih => simp [ih, hab, eq_comm]

theorem mapError_eq_ok {x : Except ε α} {f : ε → ε'} {a : α} : x.mapError f = .ok a ↔ x = .ok a := by
  cases x with
  | ok b =>
    show (.ok b : Except ε' α) = .ok a ↔ _
    simp
  | error e =>
    show (.error (f e) : Except ε' α) = .ok a ↔ _
    simp

theorem mapError_eq_error {x : Except ε α} {f : ε → ε'} {e' : ε'} :
    x.mapError f = .error e' ↔ ∃ e, x = .error e ∧ f e = e' := by
  cases x with
  | ok b =>
    show (.ok b : Except ε' α) = .error e' ↔ _
    simp
  | error e =>
    show (.error (f e) : Except ε' α) = .error e' ↔ _
    simp

theorem toOption_eq_some {x : Except ε α} {a : α} : x.toOption = some a ↔ x = .ok a := by
  cases x <;> simp [Except.toOption]

/-- Outcomes that succeed in the same cases, with the same results. -/
theorem toOption_eq_toOption {x : Except ε α} {y : Except ε' α} :
    x.toOption = y.toOption ↔ ∀ a, x = .ok a ↔ y = .ok a := by
  constructor
  · intro h a
    rw [← toOption_eq_some, h, toOption_eq_some]
  · intro h
    refine Option.ext fun a => ?_
    rw [toOption_eq_some, toOption_eq_some]
    exact h a

/-! ## Faults -/

/-- The fault of an outcome. -/
def error? : Except ε α → Option ε
  | .error e => some e
  | .ok _ => none

theorem error?_eq_some {x : Except ε α} {e : ε} : error? x = some e ↔ x = .error e := by
  cases x <;> simp [error?]

theorem error?_eq_none {x : Except ε α} : error? x = none ↔ ∃ a, x = .ok a := by
  cases x <;> simp [error?]

theorem error?_map (x : Except ε α) (f : α → β) : error? (x.map f) = error? x := by
  cases x <;> rfl

/-- Of two outcomes that do not depend on each other the first fault counts. -/
theorem error?_both (x : Except ε α) (y : Except ε β) (f : α → β → γ) :
    error? (do
      let a ← x
      let b ← y
      return f a b) = (error? x).or (error? y) := by
  cases x <;> cases y <;> rfl

/-! ## Failing -/

/-- The outcome has a fault. -/
def Fails (x : Except ε α) : Prop := ∃ e, x = .error e

@[simp] theorem fails_error (e : ε) : Fails (.error e : Except ε α) := ⟨e, rfl⟩

@[simp] theorem not_fails_ok (a : α) : ¬ Fails (.ok a : Except ε α) := nofun

theorem not_fails_iff {x : Except ε α} : ¬ Fails x ↔ ∃ a, x = .ok a := by
  cases x <;> simp

theorem fails_bind {x : Except ε α} {f : α → Except ε β} :
    Fails (x >>= f) ↔ Fails x ∨ ∃ a, x = .ok a ∧ Fails (f a) := by
  cases x <;> simp [bind, Except.bind]

theorem fails_map {x : Except ε α} {f : α → β} : Fails (x.map f) ↔ Fails x := by
  cases x <;> simp [Except.map]

/-- Outcomes one after the other fail when one of them does. -/
theorem fails_mapM {f : α → Except ε β} {xs : List α} : Fails (xs.mapM f) ↔ ∃ a ∈ xs, Fails (f a) := by
  induction xs with
  | nil => simp [pure, Except.pure]
  | cons a xs ih =>
    have hrest : ∀ b, Fails (xs.mapM f >>= fun bs => (pure (b :: bs) : Except ε (List β))) ↔
        Fails (xs.mapM f) := by
      intro b
      rw [fails_bind]
      simp [pure, Except.pure]
    rw [List.mapM_cons, fails_bind]
    simp only [hrest, List.mem_cons, exists_eq_or_imp, ← ih]
    cases f a with
    | error e => simp
    | ok b => simp

end Conform.Outcome
