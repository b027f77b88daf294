import Conform.Proofs.Coerce
import Conform.Proofs.Validate.Again

/-!
# Validated values stay as they are

Validation of an output gives the output again, when no alternative that refused the input accepts
the output. For the alternatives of a literal type, and of a union of primitive types, this is a
matter of their order: `Schema.Steady`.

* `walk_literal_again`, `walk_union_again`: alternatives in a steady order;
* `validate_fixed`: the main statement.
-/

namespace Conform

/-- The alternatives of the type are in an order in which an output is not taken for something else:
the branches of a union are primitive types, and neither there nor among the members of a literal
type does a binary number stand before a whole number, or a date before a date with a time. -/
def Schema.Steady : Schema → Prop
  | .union ts => ∃ ks : List Kind, ts = ks.map .primitive ∧ ks.Pairwise Kind.MayPrecede
  | .literal ms => (ms.map Kind.of).Pairwise Kind.MayPrecede
  | _ => True

namespace Validate

/-! ## The first match -/

/-- Equal values are of one kind. -/
theorem kind_of_same {a b : Value} (h : a.same b = true) : Kind.of a = Kind.of b := by
  cases a <;> cases b <;> simp_all [Value.same, Kind.of]

/-- A member picked for the output is picked for the input. -/
theorem pick_of_pick {v o p m m' : Value} (hm : pick v m = some o)
    (hk : (Kind.of m').MayPrecede (Kind.of m)) (hm' : pick o m' = some p) : pick v m' = some p := by
  obtain ⟨hv, hsame⟩ := pick_eq_some.1 hm
  obtain ⟨ho, hsame'⟩ := pick_eq_some.1 hm'
  refine pick_eq_some.2 ⟨?_, hsame'⟩
  by_cases hany : Kind.of m' = .any
  · -- the member is a container, so the output is one, and then it is the input
    obtain rfl : o = p := by simpa [hany, coerce] using ho
    have hkm : Kind.of m = .any := by rw [← kind_of_same hsame, kind_of_same hsame', hany]
    obtain rfl : v = o := by simpa [hkm, coerce] using hv
    exact ho
  · exact Coerce.coerce_of_coerce hv hk hany ho

/-! ## Alternatives -/

section Alternatives

variable {e : String → Value → Except Failure Value} {v o : Value}

/-- What a kind makes of a value it makes of the outcome. -/
theorem coerce_again {k : Kind} (h : coerce k v = .ok o) : coerce k o = .ok o :=
  Coerce.coerce_of_holds (Coerce.holds_of_ok h)

/-- The members of a literal type, in a steady order. -/
theorem walk_literal_again {ms : List Value} (hms : (Schema.literal ms).Steady)
    (h : walk e (.literal ms) v = .ok o) : walk e (.literal ms) o = .ok o := by
  rw [walk_literal_ok] at h ⊢
  refine findSome?_again h (List.pairwise_map.1 hms) ?_ ?_
  · intro m _ hm
    obtain ⟨hcoerce, hsame⟩ := pick_eq_some.1 hm
    exact pick_eq_some.2 ⟨coerce_again hcoerce, hsame⟩
  · intro m _ m' _ p hk hm hm'
    exact Option.isSome_of_eq_some (pick_of_pick hm hk hm')

/-- The primitive branches of a union give what coercion to the first fitting kind gives. -/
theorem walk_primitives_ok {ks : List Kind} : walk e (.union (ks.map .primitive)) v = .ok o ↔
    ks.findSome? (fun k => (coerce k v).toOption) = some o := by
  have hwalk : ∀ k, (walk e (.primitive k) v).toOption = (coerce k v).toOption := by
    intro k
    rw [walk_primitive]
    cases coerce k v <;> rfl
  rw [walk_union_ok, List.findSome?_map]
  simp only [Function.comp_def, hwalk]

/-- The branches of a union, in a steady order. -/
theorem walk_union_again {ts : List Schema} (hts : (Schema.union ts).Steady)
    (h : walk e (.union ts) v = .ok o) : walk e (.union ts) o = .ok o := by
  obtain ⟨ks, rfl, hks⟩ := hts
  rw [walk_primitives_ok] at h ⊢
  refine findSome?_again (g := fun u k => (coerce k u).toOption) h hks ?_ ?_
  · intro k _ hk
    exact Outcome.toOption_eq_some.2 (coerce_again (Outcome.toOption_eq_some.1 hk))
  · intro k _ k' _ p hkk hk hp
    rw [Outcome.toOption_eq_some] at hk hp
    by_cases hany : k = .any
    · simp [hany, coerce, Except.toOption]
    · exact Option.isSome_of_eq_some
        (Outcome.toOption_eq_some.2 (Coerce.coerce_of_coerce hk hkk hany hp))

end Alternatives

/-! ## All types -/

/-- Every value may be handed in, and outputs are handed back as they are. -/
theorem handed_id : Handed (fun _ => True) id where
  item _ _ := trivial
  entry _ _ := trivial
  null := rfl
  list xs := by simp
  record m := by simp

/-- What a legal call returns it returns again, when all types in reach are steady. -/
theorem walk_again {s : Scope} (hsteady : ∀ h t, s.Reaches h t → t.Steady) {c : Call}
    (hc : c.Legal) (hreach : s.Reaches c.scope c.type) :
    ∀ o, walk (ask c.scope) c.type c.value = .ok o → walk (ask c.scope) c.type o = .ok o := by
  refine walk_handed handed_id ?_ hc hreach trivial
  intro h t ht hchoice v o _ ho
  have hsteady := hsteady h t ht
  cases t with
  | primitive k => exact walk_primitive_ok.2 (coerce_again (walk_primitive_ok.1 ho))
  | literal ms => exact walk_literal_again hsteady ho
  | union ts => exact walk_union_again hsteady ho
  | _ => exact hchoice.elim

/-- **Outputs are fixed points.** Where all types in reach of a built scope are steady, validation
of an output gives that very output, for every such type and every input. -/
theorem validate_fixed {s : Scope} (hs : s.Built) (hsteady : ∀ h t, s.Reaches h t → t.Steady)
    {h : Scope} {t : Schema} (ht : s.Reaches h t) {v o : Value} (ho : validateIn h t v = .ok o) :
    validateIn h t o = .ok o := by
  obtain ⟨hh, hadmits⟩ := ht.admits hs
  rw [validateIn_eq_walk hh hadmits] at ho ⊢
  exact walk_again hsteady (c := ⟨h, t, v⟩) ⟨hh, hadmits⟩ ht o ho

end Validate

/-! ## An example: accounts with alternatives in a steady order -/

namespace Builder

/-- An amount: a whole number, or else a binary number. -/
def amount : Schema := .union [.primitive .int, .primitive .float]

/-- A sign, a number or a word. -/
def sign : Schema := .literal [.int 1, .str "neg"]

/-- An account: its sign and amount, and the accounts below it under names of their own. -/
def account : Schema :=
  .record [⟨"sign", sign, true⟩, ⟨"sum", .nullable (.ref "Amount"), false⟩]
    (.typed (.ref "Account"))

/-- Accounts and their amounts. -/
def ledger : Builder where
  name := "ledger"
  parent := none
  bindings := [("Amount", amount), ("Account", account)]

theorem ledger_built : ledger.scope.Built := .root rfl (b := ledger) rfl

/-- The types in reach of the ledger. -/
def ledgerTypes : List Schema :=
  [.ref "Amount", .ref "Account", amount, account, sign, .nullable (.ref "Amount"), .primitive .int,
    .primitive .float]

theorem ledger_reaches {h : Scope} {t : Schema} (ht : ledger.scope.Reaches h t) :
    t ∈ ledgerTypes := by
  refine ht.mem rfl ?_ ?_
  · simp [ledgerTypes, amount, account, sign, Schema.parts]
  · simp [ledgerTypes, ledger, scope]

theorem ledger_steady {h : Scope} {t : Schema} (ht : ledger.scope.Reaches h t) : t.Steady := by
  have hall : ∀ t ∈ ledgerTypes, t.Steady := by
    simp only [ledgerTypes, List.forall_mem_cons]
    refine ⟨trivial, trivial, ⟨[.int, .float], rfl, ?_⟩, trivial, ?_, trivial, trivial, trivial, ?_⟩
    · simp [Kind.MayPrecede]
    · simp [sign, Schema.Steady, Kind.of, Kind.MayPrecede]
    · simp
  exact hall t (ledger_reaches ht)

end Builder

namespace Validate

/-- An account whose numbers are written as texts, and whose sign comes last. -/
theorem validate_fixed_ledger :
    Builder.ledger.scope.Built ∧ (∀ h t, Builder.ledger.scope.Reaches h t → t.Steady) ∧
    validateIn Builder.ledger.scope (.ref "Account")
        (.record [("sum", .str "7"), ("b", .record [("sign", .str "neg")]), ("sign", .str "1")]) =
      .ok (.record [("sign", .int 1), ("sum", .int 7), ("b", .record [("sign", .str "neg")])]) ∧
    validateIn Builder.ledger.scope (.ref "Account")
        (.record [("sign", .int 1), ("sum", .int 7), ("b", .record [("sign", .str "neg")])]) =
      .ok (.record [("sign", .int 1), ("sum", .int 7), ("b", .record [("sign", .str "neg")])]) := by
  have hn : Builder.ledger.scope.Reaches Builder.ledger.scope (.ref "Account") := .name rfl
  have hsteady : ∀ h t, Builder.ledger.scope.Reaches h t → t.Steady := fun _ _ =>
    Builder.ledger_steady
  exact ⟨Builder.ledger_built, hsteady, rfl, validate_fixed Builder.ledger_built hsteady hn
    (v := .record [("sum", .str "7"), ("b", .record [("sign", .str "neg")]), ("sign", .str "1")])
    rfl⟩

end Validate

end Conform
