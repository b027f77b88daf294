import Conform.Definition.Lower
import Conform.Pattern.Parser
import Conform.Proofs.Decimal.Nearest
import Conform.Proofs.Scope.Built
import Conform.Proofs.Validate.Parts

/-!
# Whole numbers in definitions

A definition may compare a value with a whole number or list whole numbers as literals. Up to the
greatest number with a sign they are compared as they are. A number above it becomes the nearest
binary number, and so does any number that it is compared with.

* `Binary.Merge`: two numbers of which one is above the range with a sign, and both have the same
  nearest binary number;
* `Value.compare?_ofNumber`: the order of two whole numbers in values is that of the numbers, except
  that those that merge are equal;
* `whole_compared`: what a constraint and a literal type accept.
-/

namespace Conform

/-- What a comparison says of whole numbers. -/
def Comparison.Relates : Comparison → Int → Int → Prop
  | .gt, m, n => m > n
  | .ge, m, n => m ≥ n
  | .lt, m, n => m < n
  | .le, m, n => m ≤ n
  | .eq, m, n => m = n
  | .ne, m, n => m ≠ n

theorem Comparison.holds_compare (op : Comparison) (m n : Int) :
    op.holds (Ord.compare m n) = true ↔ op.Relates m n := by
  rcases lt_trichotomy m n with h | h | h
  · rw [compare_lt_iff_lt.2 h]
    cases op <;> simp [Comparison.holds, Comparison.Relates] <;> omega
  · rw [compare_eq_iff_eq.2 h]
    cases op <;> simp [Comparison.holds, Comparison.Relates] <;> omega
  · rw [compare_gt_iff_gt.2 h]
    cases op <;> simp [Comparison.holds, Comparison.Relates] <;> omega

namespace Binary

/-- Two whole numbers that are not told apart: one of them has to become a binary number, and the
other has the same one. -/
def Merge (m n : Int) : Prop := (2 ^ 63 ≤ m ∨ 2 ^ 63 ≤ n) ∧ nearestInt m = nearestInt n

instance (m n : Int) : Decidable (Merge m n) := inferInstanceAs (Decidable (_ ∧ _))

theorem compare_nearestInt_of_le {m n : Int} (h : 2 ^ 63 ≤ m ∨ 2 ^ 63 ≤ n) :
    Ord.compare (nearestInt m) (nearestInt n) = Ord.compare (if Merge m n then n else m) n := by
  by_cases heq : nearestInt m = nearestInt n
  · rw [if_pos ⟨h, heq⟩, heq, compare_eq_iff_eq.2 rfl, compare_eq_iff_eq.2 rfl]
  · rw [if_neg fun hm => heq hm.2, compare_nearestInt heq]

end Binary

/-- Every whole number of 64 bits, with or without a sign, is a number of documents. -/
theorem Number.exists_ofInt? {n : Int} (hlo : -2 ^ 63 ≤ n) (hhi : n < 2 ^ 64) :
    ∃ N, ofInt? n = some N := by
  rw [ofInt?, whole?]
  by_cases hn : n < 2 ^ 63
  · rw [if_pos (by omega)]
    exact ⟨_, rfl⟩
  · have hnat : (UInt64.ofNat n.toNat).toNat = n.toNat := Nat.mod_eq_of_lt (by omega)
    rw [if_neg (by omega)]
    exact ⟨_, dif_pos (by omega)⟩

namespace Value

open Binary Validate

variable {m n : Int} {M N : Number}

/-- As a value, a whole number stays one or becomes the nearest binary number. -/
theorem ofNumber_cases (h : Number.ofInt? n = some N) :
    (n < 2 ^ 63 ∧ ∃ k : Int64, k.toInt = n ∧ ofNumber N = .int k) ∨
    (2 ^ 63 ≤ n ∧ ∃ x, Stands (nearestInt n) x ∧ ofNumber N = .float x) := by
  rw [Number.ofInt?] at h
  split at h
  · next k hk =>
    obtain rfl := Option.some.inj h
    have hn := (whole?_eq_some_iff n k).1 hk
    exact Or.inl ⟨hn ▸ k.toInt_lt, k, hn, rfl⟩
  · split at h
    · next hn =>
      obtain rfl := Option.some.inj h
      -- a number below zero would leave no bits
      have hpos : 0 ≤ n := by
        by_contra hneg
        rw [Int.toNat_of_nonpos (by omega)] at hn
        exact absurd hn.1 (by decide)
      have hnat : (UInt64.ofNat n.toNat).toNat = n.toNat := Nat.mod_eq_of_lt (by omega)
      have hstands := stands_toFloat (UInt64.ofNat n.toNat)
      obtain ⟨k, rfl⟩ := Int.eq_ofNat_of_zero_le hpos
      rw [hnat] at hstands
      exact Or.inr ⟨by omega, _, hstands, rfl⟩
    · cases h

/-- **The order of whole numbers is exact up to merging.** -/
theorem compare?_ofNumber (hM : Number.ofInt? m = some M) (hN : Number.ofInt? n = some N) :
    (ofNumber M).compare? (ofNumber N) = some (Ord.compare (if Merge m n then n else m) n) := by
  rcases ofNumber_cases hM with ⟨hm, j, rfl, hj⟩ | ⟨hm, x, hx, hj⟩ <;>
    rcases ofNumber_cases hN with ⟨hn, k, rfl, hk⟩ | ⟨hn, y, hy, hk⟩ <;> rw [hj, hk, compare?]
  · rw [if_neg]
    rintro ⟨h, -⟩
    omega
  · rw [(stands_widen j).compareFloat? hy, compare_nearestInt_of_le (Or.inr hn)]
  · rw [hx.compareFloat? (stands_widen k), compare_nearestInt_of_le (Or.inl hm)]
  · rw [hx.compareFloat? hy, compare_nearestInt_of_le (Or.inl hm)]

theorem exists_pick {v w o : Value} (h : coerce (Kind.of w) v = .ok o) :
    (∃ p, pick v w = some p) ↔ o.same w = true := by
  simp only [pick_eq_some, h, Except.ok.injEq, exists_eq_left']

theorem same_float {x y : Float} (hx : Stands m x) (hy : Stands n y) :
    (Value.float x).same (.float y) = true ↔ m = n := by
  rw [same, hx.beq hy, decide_eq_true_eq]

/-- A literal number is met by itself and, if it has to become a binary number, by all that have
the same one. -/
theorem exists_pick_ofNumber (hM : Number.ofInt? m = some M) (hN : Number.ofInt? n = some N) :
    (∃ o, pick (ofNumber M) (ofNumber N) = some o) ↔
      m = n ∨ 2 ^ 63 ≤ n ∧ nearestInt m = nearestInt n := by
  have hnearest : m = n → nearestInt m = nearestInt n := congrArg nearestInt
  rcases ofNumber_cases hM with ⟨hm, j, rfl, hj⟩ | ⟨hm, x, hx, hj⟩ <;>
    rcases ofNumber_cases hN with ⟨hn, k, rfl, hk⟩ | ⟨hn, y, hy, hk⟩ <;> rw [hj, hk]
  · rw [exists_pick rfl, same, beq_iff_eq, ← Int64.toInt_inj]
    omega
  · rw [exists_pick rfl, same_float (stands_widen j) hy]
    omega
  · -- a binary number never becomes a whole one
    refine iff_of_false ?_ (by omega)
    rintro ⟨o, ho⟩
    cases (pick_eq_some.1 ho).1
  · rw [exists_pick rfl, same_float hx hy]
    omega

end Value

open Binary Validate

section Accepts

variable {m n : Int} {M N : Number} {e : String → Value → Except Failure Value}

theorem walk_compared (hM : Number.ofInt? m = some M) (hN : Number.ofInt? n = some N)
    (label : Option String) (op : Comparison) :
    (∃ o, walk e (.refined (.primitive .any) [⟨label, .compare op (Value.ofJson (.num N))⟩])
      (Value.ofJson (.num M)) = .ok o) ↔ op.Relates (if Merge m n then n else m) n := by
  have heval : (Predicate.compare op (Value.ofJson (.num N))).eval (Value.ofJson (.num M)) = true ↔
      op.Relates (if Merge m n then n else m) n := by
    simp only [Predicate.eval, Value.ofJson, Value.compare?_ofNumber hM hN]
    exact op.holds_compare _ n
  rw [← heval]
  simp only [walk_refined_ok, walk_primitive_ok, coerce, Except.ok.injEq, exists_eq_left',
    List.mem_singleton, forall_eq]

theorem walk_listed (hM : Number.ofInt? m = some M) (hN : Number.ofInt? n = some N) :
    (∃ o, walk e (.literal [Value.ofJson (.num N)]) (Value.ofJson (.num M)) = .ok o) ↔
      m = n ∨ 2 ^ 63 ≤ n ∧ nearestInt m = nearestInt n := by
  rw [← Value.exists_pick_ofNumber hM hN]
  simp only [walk_literal_ok, Value.ofJson, List.findSome?_singleton]

end Accepts

/-- **Whole numbers in definitions are compared exactly, except for those that merge.** For numbers
`n` in a definition and `m` in a document, both of 64 bits with or without a sign: a constraint on
any value that compares with `n` accepts `m` if the comparison holds of `m` and `n`, where `m` counts
as equal to `n` if they merge; and the literal type of `n` alone accepts `m` if it is `n`, or if `n`
is above the range with a sign and both have the same nearest binary number. -/
theorem whole_compared [PatternEngine] {m n : Int} (hm : -2 ^ 63 ≤ m ∧ m < 2 ^ 64)
    (hn : -2 ^ 63 ≤ n ∧ n < 2 ^ 64) :
    ∃ M N, Number.ofInt? m = some M ∧ Number.ofInt? n = some N ∧ ∀ s : Scope,
      (∀ label op, ∃ t,
        (TypeSyntax.subtypeConstraint (.typeRef "Any") [⟨label, .compare op (.num N)⟩]).lower = .ok t ∧
        ((∃ o, validateIn s t (Value.ofJson (.num M)) = .ok o) ↔
          op.Relates (if Merge m n then n else m) n)) ∧
      ∃ t, (TypeSyntax.literal [.num N]).lower = .ok t ∧
        ((∃ o, validateIn s t (Value.ofJson (.num M)) = .ok o) ↔
          m = n ∨ 2 ^ 63 ≤ n ∧ nearestInt m = nearestInt n) := by
  obtain ⟨M, hM⟩ := Number.exists_ofInt? hm.1 hm.2
  obtain ⟨N, hN⟩ := Number.exists_ofInt? hn.1 hn.2
  refine ⟨M, N, hM, hN, fun s => ⟨fun label op => ?_, ?_⟩⟩
  · exact ⟨_, rfl, walk_compared hM hN label op⟩
  · exact ⟨_, rfl, walk_listed hM hN⟩

/-- The greatest number that the first binary one above the range is told apart from. -/
theorem whole_compared_below_limit :
    (-2 ^ 63 ≤ (2 ^ 63 - 513 : Int) ∧ (2 ^ 63 - 513 : Int) < 2 ^ 64) ∧
    (-2 ^ 63 ≤ (2 ^ 63 : Int) ∧ (2 ^ 63 : Int) < 2 ^ 64) ∧
    ∃ M N t u, Number.ofInt? (2 ^ 63 - 513) = some M ∧ Number.ofInt? (2 ^ 63) = some N ∧
      (TypeSyntax.subtypeConstraint (.typeRef "Any") [⟨none, .compare .lt (.num N)⟩]).lower = .ok t ∧
      (TypeSyntax.literal [.num N]).lower = .ok u ∧
      (∃ o, validateIn .void t (Value.ofJson (.num M)) = .ok o) ∧
      ¬ ∃ o, validateIn .void u (Value.ofJson (.num M)) = .ok o := by
  have hm : -2 ^ 63 ≤ (2 ^ 63 - 513 : Int) ∧ (2 ^ 63 - 513 : Int) < 2 ^ 64 := by omega
  have hn : -2 ^ 63 ≤ (2 ^ 63 : Int) ∧ (2 ^ 63 : Int) < 2 ^ 64 := by omega
  have hapart : nearestInt (2 ^ 63 - 513) ≠ nearestInt (2 ^ 63) := by decide
  obtain ⟨M, N, hM, hN, h⟩ := whole_compared hm hn
  obtain ⟨t, ht, htake⟩ := (h .void).1 none .lt
  obtain ⟨u, hu, hlist⟩ := (h .void).2
  refine ⟨hm, hn, M, N, t, u, hM, hN, ht, hu, htake.2 ?_, fun ho => ?_⟩
  · rw [if_neg fun hmerge => hapart hmerge.2]
    exact (by omega : (2 ^ 63 - 513 : Int) < 2 ^ 63)
  · rcases hlist.1 ho with heq | ⟨-, heq⟩
    · omega
    · exact hapart heq

/-- The greatest number with a sign and the next one are different numbers, and a constraint or a
literal type that asks for the one accepts the other. -/
theorem merged_at_limit :
    (2 ^ 63 - 1 : Int) ≠ 2 ^ 63 ∧
    ∃ M N t u, Number.ofInt? (2 ^ 63 - 1) = some M ∧ Number.ofInt? (2 ^ 63) = some N ∧
      (TypeSyntax.subtypeConstraint (.typeRef "Any") [⟨none, .compare .eq (.num N)⟩]).lower = .ok t ∧
      (TypeSyntax.literal [.num N]).lower = .ok u ∧
      (∃ o, validateIn .void t (Value.ofJson (.num M)) = .ok o) ∧
      ∃ o, validateIn .void u (Value.ofJson (.num M)) = .ok o := by
  have hsame : nearestInt (2 ^ 63 - 1) = nearestInt (2 ^ 63) := by decide
  obtain ⟨M, hM⟩ := Number.exists_ofInt? (n := 2 ^ 63 - 1) (by omega) (by omega)
  obtain ⟨N, hN⟩ := Number.exists_ofInt? (n := 2 ^ 63) (by omega) (by omega)
  refine ⟨by omega, M, N, _, _, hM, hN, rfl, rfl, (walk_compared hM hN none .eq).2 ?_,
    (walk_listed hM hN).2 (Or.inr ⟨by omega, hsame⟩)⟩
  rw [if_pos ⟨Or.inr (by omega), hsame⟩]
  rfl

end Conform
