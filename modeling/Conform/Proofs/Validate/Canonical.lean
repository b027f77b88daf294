import Conform.Proofs.Decimal.Reading
import Conform.Proofs.Definition.Canonical
import Conform.Proofs.Validate.FixedPoint

/-!
# Canonical documents are accepted again

A document is validated and the output printed as a document; validation of that document gives the
same one. In between temporal values have become texts, which have to be read as the values they
were, by the alternative that gave them.

* `coerce_reread`: a primitive type gives an output again;
* `coerce_of_reread`: an alternative that takes what is read again took the input;
* `validateJson_again`: the main statement, for scopes built from canonical definitions.
-/

namespace Conform

open Value (reread Plain)

namespace Coerce

variable {k k' : Kind} {v o p : Value}

/-- A value read from a document is not temporal. -/
theorem kind_of_plain (hv : v.Plain) : Kind.of v ∉ [Kind.dateTime, .date, .duration] := by
  cases v with
  | dateTime d => cases hv
  | date d => cases hv
  | duration d => cases hv
  | _ => simp [Kind.of]

/-! ## Outputs that are read again -/

/-- **What becomes of an output.** It stays as it is; or it is a date and its text is the input; or
it is a date with a time that was read from a text. -/
theorem reread_of_coerce (hk : k ≠ .duration) (hv : v.Plain) (h : coerce k v = .ok o) :
    o.Plain ∨ (∃ d, o = .date d ∧ reread o = v) ∨
      ∃ s d, v = .str s ∧ k = .dateTime ∧ o = .dateTime d := by
  rcases coerce_cases h with ⟨rfl, -⟩ | ⟨⟨s, rfl⟩, rfl, hread⟩ | ⟨n, -, -, rfl⟩ | ⟨d, rfl, -⟩
  · exact Or.inl hv
  · cases o with
    | bool b => exact Or.inl rfl
    | int n => exact Or.inl rfl
    | float x =>
      obtain ⟨y, hy, hyx⟩ := reading_eq_ok.1 h
      obtain rfl : y = x := by simpa using hyx
      obtain ⟨n, -, hfinite, rfl⟩ := parseFloat?_eq_some.1 hy
      exact Or.inl (Value.plain_float hfinite)
    | dateTime d => exact Or.inr (Or.inr ⟨s, d, rfl, rfl, rfl⟩)
    | date d =>
      obtain ⟨a, ha, had⟩ := reading_eq_ok.1 h
      obtain rfl : a = d := by simpa using had
      exact Or.inr (Or.inl ⟨a, rfl, congrArg Value.str (Date.parse?_eq_some.1 ha).2⟩)
    | duration d => exact absurd rfl hk
    | _ => simp [Kind.of, Kind.readable] at hread
  · exact Or.inl (Value.plain_float (Binary.isFinite_widen n))
  · cases hv

/-- The text of a date with a time reads as nothing else but a text. -/
theorem kind_of_dateTime_text {d : DateTime} (h : coerce k (.str d.text) = .ok p) :
    k ∈ [Kind.any, .string, .dateTime, .duration] := by
  cases k with
  | null => simp [coerce] at h
  | bool =>
    have hT := d.mem_text
    simp only [coerce] at h
    split at h
    · rename_i htext
      simp [htext] at hT
    · split at h
      · rename_i htext
        simp [htext] at hT
      · simp at h
  | int =>
    obtain ⟨n, hn, -⟩ := reading_eq_ok.1 h
    obtain ⟨x, hx, -⟩ := parseFloat?_of_parseInt? hn
    exact absurd d.mem_text (notMem_of_parseFloat? hx)
  | float =>
    obtain ⟨x, hx, -⟩ := reading_eq_ok.1 h
    exact absurd d.mem_text (notMem_of_parseFloat? hx)
  | date =>
    obtain ⟨a, ha, -⟩ := reading_eq_ok.1 h
    simp [d.dateParse?_text] at ha
  | _ => simp

/-- What is taken for a whole number is taken for a binary number that compares in the same way. -/
theorem coerce_float_of_int {n : Int64} (h : coerce .int v = .ok (.int n)) :
    ∃ x, coerce .float v = .ok (.float x) ∧ ∀ y, (x == y) = (Value.widen n == y) := by
  rcases coerce_cases h with ⟨rfl, -⟩ | ⟨⟨s, rfl⟩, -, -⟩ | ⟨m, -, hk, -⟩ | ⟨d, -, hk, -⟩
  · exact ⟨Value.widen n, rfl, fun _ => rfl⟩
  · obtain ⟨m, hm, hmn⟩ := reading_eq_ok.1 h
    obtain rfl : m = n := by simpa using hmn
    obtain ⟨x, hx, hcompare⟩ := parseFloat?_of_parseInt? hm
    exact ⟨x, reading_eq_ok.2 ⟨x, hx, rfl⟩, hcompare⟩
  · cases hk
  · cases hk

/-- **A primitive type gives an output again.** -/
theorem coerce_reread (hk : k ≠ .duration) (hv : v.Plain) (h : coerce k v = .ok o) :
    coerce k (reread o) = .ok o := by
  rcases reread_of_coerce hk hv h with hplain | ⟨d, -, hdate⟩ | ⟨s, d, -, rfl, rfl⟩
  · rw [hplain]
    exact coerce_of_holds (holds_of_ok h)
  · rw [hdate]
    exact h
  · exact reading_eq_ok.2 ⟨d, d.parse?_text, rfl⟩

/-- **An alternative that takes what is read again took the input.** -/
theorem coerce_of_reread (hk : k ≠ .duration) (hk' : k' ≠ .duration) (hv : v.Plain)
    (h : coerce k v = .ok o) (h' : coerce k' (reread o) = .ok p) : ∃ q, coerce k' v = .ok q := by
  by_cases hany : k' = .any
  · exact ⟨v, by rw [hany, coerce]⟩
  rcases reread_of_coerce hk hv h with hplain | ⟨d, -, hdate⟩ | ⟨s, d, rfl, rfl, rfl⟩
  · rw [hplain] at h'
    by_cases hint : k' = .float ∧ k = .int
    · obtain ⟨rfl, rfl⟩ := hint
      obtain ⟨n, rfl⟩ : ∃ n, o = .int n := by
        rcases holds_of_ok h with hk | hk
        · cases hk
        · cases o <;> simp_all [Kind.of]
      obtain ⟨x, hx, -⟩ := coerce_float_of_int h
      exact ⟨_, hx⟩
    · refine ⟨p, coerce_of_coerce h ⟨hint, ?_⟩ hany h'⟩
      rintro ⟨-, rfl⟩
      rcases holds_of_ok h with hk | hk
      · cases hk
      · exact kind_of_plain hplain (by simp [hk])
  · rw [hdate] at h'
    exact ⟨p, h'⟩
  · -- the text of a date with a time is taken for a text, or for a date with a time
    have hmem := kind_of_dateTime_text h'
    simp only [List.mem_cons, List.not_mem_nil, or_false] at hmem
    rcases hmem with hk | rfl | rfl | hk
    · exact absurd hk hany
    · exact ⟨_, rfl⟩
    · exact ⟨_, h⟩
    · exact absurd hk hk'

end Coerce

namespace Validate

/-! ## Alternatives -/

variable {e : String → Value → Except Failure Value} {v o : Value}

/-- A binary number that equals the whole number which the input is taken for equals the input. -/
theorem pick_float_of_int {m m' p : Value} (hm' : Kind.of m' = .float) (hm : Kind.of m = .int)
    (hpick : pick v m = some o) (hpick' : pick o m' = some p) : ∃ q, pick v m' = some q := by
  obtain ⟨hcoerce, hsame⟩ := pick_eq_some.1 hpick
  obtain ⟨hcoerce', hsame'⟩ := pick_eq_some.1 hpick'
  rw [hm] at hcoerce
  obtain ⟨n, rfl⟩ : ∃ n, o = .int n := by
    have hkind := (kind_of_same hsame).trans hm
    cases o <;> simp_all [Kind.of]
  obtain ⟨y, rfl⟩ : ∃ y, m' = .float y := by cases m' <;> simp_all [Kind.of]
  obtain rfl : .float (Value.widen n) = p := Except.ok.inj hcoerce'
  obtain ⟨x, hx, hcompare⟩ := Coerce.coerce_float_of_int hcoerce
  exact ⟨.float x, pick_eq_some.2 ⟨hx, (hcompare y).trans hsame'⟩⟩

/-- The members of a literal type, none of them temporal. -/
theorem walk_literal_reread {ms : List Value} (hms : ∀ m ∈ ms, m.Plain) (hv : v.Plain)
    (h : walk e (.literal ms) v = .ok o) : walk e (.literal ms) (reread o) = .ok o := by
  rw [walk_literal_ok] at h ⊢
  -- the output is of the kind of a member, and hence not temporal
  have hplain : o.Plain := by
    obtain ⟨m, hm, hpick⟩ := List.exists_of_findSome?_eq_some h
    obtain ⟨hcoerce, hsame⟩ := pick_eq_some.1 hpick
    have hkind := Coerce.kind_of_plain (hms m hm)
    rw [← kind_of_same hsame] at hcoerce hkind
    have hduration : Kind.of o ≠ .duration := fun hk => hkind (by simp [hk])
    rcases Coerce.reread_of_coerce hduration hv hcoerce with
      ho | ⟨d, rfl, -⟩ | ⟨s, d, -, -, rfl⟩
    · exact ho
    · simp [Kind.of] at hkind
    · simp [Kind.of] at hkind
  rw [hplain]
  refine findSome?_again (R := fun _ _ => True) h (List.pairwise_of_forall fun _ _ => trivial) ?_ ?_
  · intro m hm hpick
    obtain ⟨hcoerce, hsame⟩ := pick_eq_some.1 hpick
    exact pick_eq_some.2 ⟨coerce_again hcoerce, hsame⟩
  · intro m' hm' m hm p _ hpick hpick'
    by_cases hint : Kind.of m' = .float ∧ Kind.of m = .int
    · obtain ⟨q, hq⟩ := pick_float_of_int hint.1 hint.2 hpick hpick'
      exact Option.isSome_of_eq_some hq
    · refine Option.isSome_of_eq_some (pick_of_pick hpick ⟨hint, ?_⟩ hpick')
      rintro ⟨-, hk⟩
      exact Coerce.kind_of_plain (hms m hm) (by simp [hk])

/-- The branches of a union of primitive types. -/
theorem walk_union_reread {ks : List Kind} (hks : .duration ∉ ks) (hv : v.Plain)
    (h : walk e (.union (ks.map .primitive)) v = .ok o) :
    walk e (.union (ks.map .primitive)) (reread o) = .ok o := by
  rw [walk_primitives_ok] at h ⊢
  have hne : ∀ k ∈ ks, k ≠ .duration := fun k hk hne => hks (hne ▸ hk)
  refine findSome?_again (g := fun u k => (coerce k u).toOption) (R := fun _ _ => True) h
    (List.pairwise_of_forall fun _ _ => trivial) ?_ ?_
  · intro k hk hko
    rw [Outcome.toOption_eq_some] at hko ⊢
    exact Coerce.coerce_reread (hne k hk) hv hko
  · intro k' hk' k hk p _ hko hp
    rw [Outcome.toOption_eq_some] at hko hp
    obtain ⟨q, hq⟩ := Coerce.coerce_of_reread (hne k hk) (hne k' hk') hv hko hp
    exact Option.isSome_of_eq_some (Outcome.toOption_eq_some.2 hq)

/-! ## All types -/

/-- Values read from documents are handed in, and outputs are written and read again. -/
theorem handed_reread : Handed Plain reread where
  item := Plain.item
  entry := Plain.entry
  null := rfl
  list := Value.reread_list
  record := Value.reread_record

/-- What a canonical scope returns it returns again for what is read again. -/
theorem walk_reread {s : Scope} (hs : s.Canonical) {c : Call} (hc : c.Legal)
    (hreach : s.Reaches c.scope c.type) (hv : c.value.Plain) {o : Value}
    (ho : walk (ask c.scope) c.type c.value = .ok o) :
    walk (ask c.scope) c.type (reread o) = .ok o := by
  refine walk_handed handed_reread ?_ hc hreach hv o ho
  intro h t ht hchoice v o hv ho
  have hcanonical := hs.types h t ht
  cases t with
  | primitive k =>
    rw [walk_primitive_ok] at ho ⊢
    exact Coerce.coerce_reread hcanonical hv ho
  | literal ms => exact walk_literal_reread hcanonical hv ho
  | union ts =>
    obtain ⟨ks, rfl, hks⟩ := hcanonical
    exact walk_union_reread hks hv ho
  | _ => exact hchoice.elim

/-- **Canonical documents are accepted again, unchanged.** In a scope built from canonical
definitions, alone or inside a canonical scope, whatever document comes out under a name comes out
again when it is put in: the same values, with all members in the same order. -/
theorem validateJson_again [PatternEngine] {name : String} {parent : Option Scope}
    (hp : ∀ p, parent = some p → p.Canonical) {d : Definitions} (hd : d.Canonical) {s : Scope}
    (hs : (Builder.empty name parent).buildFrom d = .ok s) {n : String} {w : Validator}
    (hw : s.compile n = .ok w) {j j₁ : Json} (h : w.validateJson j = .ok j₁) :
    w.validateJson j₁ = .ok j₁ := by
  have hs := Scope.canonical_of_buildFrom hp hd hs
  obtain ⟨rfl, hn⟩ := compile_ok hw
  obtain ⟨o, ho, rfl⟩ := Outcome.map_eq_ok.1 h
  have hlegal := Call.legal_ref hs.built hn
  have hvalidate : ∀ v, validateIn s (.ref n) v = walk (ask s) (.ref n) v :=
    validateIn_eq_walk hs.built (Scope.admits_ref hn)
  refine Outcome.map_eq_ok.2 ⟨o, ?_, rfl⟩
  change validateIn s (.ref n) (reread o) = .ok o
  rw [hvalidate]
  refine walk_reread hs (hlegal (Value.ofJson j)) (.name hn) (Value.plain_ofJson j) ?_
  rw [← hvalidate]
  exact ho

end Validate

/-! ## An example: events inside a calendar -/

namespace Definitions

/-- Points in time: a date, or else a date with a time. -/
def calendar : Definitions := ⟨[⟨"Stamp", .unionType [.typeRef "Date", .typeRef "Datetime"]⟩]⟩

/-- Events with a rank and with events inside them. -/
def events : Definitions := ⟨[⟨"Event", .typeSchema
  [⟨"at", .typeRef "Stamp", false⟩,
    ⟨"rank", .nullable (.literal [.num (.int 1), .str "last"]), true⟩,
    ⟨"parts", .arrayType (.typeRef "Event"), false⟩] .closed⟩]⟩

theorem canonical_calendar : calendar.Canonical := by
  have hdate : TypeSyntax.Primitive (.typeRef "Date") := ⟨.date, by decide, by decide⟩
  have hdateTime : TypeSyntax.Primitive (.typeRef "Datetime") := ⟨.dateTime, by decide, by decide⟩
  simp [Canonical, calendar, TypeSyntax.Canonical, hdate, hdateTime]

theorem canonical_events : events.Canonical := by
  have hname : Kind.ofName? "Stamp" ≠ some .duration ∧ Kind.ofName? "Event" ≠ some .duration := by
    decide
  simp [Canonical, events, TypeSyntax.Canonical, TypeSyntax.CanonicalProperties,
    TypeSyntax.CanonicalExtras, hname]

end Definitions

namespace Scope

/-- The scope of the calendar. -/
def calendar : Scope :=
  ⟨"calendar", none, [("Stamp", .union [.primitive .date, .primitive .dateTime])]⟩

/-- The scope of the events, inside that of the calendar. -/
def events : Scope :=
  ⟨"events", some calendar, [("Event", .record [⟨"at", .ref "Stamp", true⟩,
    ⟨"rank", .nullable (.literal [.int 1, .str "last"]), false⟩,
    ⟨"parts", .array (.ref "Event"), true⟩] .closed)]⟩

theorem canonical_calendar : calendar.Canonical :=
  canonical_of_buildFrom (by simp) Definitions.canonical_calendar rfl

end Scope

namespace Json

/-- An event with a time in a loose layout, a number in a text, and fields out of order. -/
def draft : Json :=
  .obj [("parts", .arr [.obj [("parts", .arr []), ("at", .str "2024-02-29")]]), ("rank", .str "1"),
    ("at", .str "2024-2-29 8:05")]

/-- The event as it comes out. -/
def final : Json :=
  .obj [("at", .str "2024-02-29T08:05:00"), ("rank", .num (.int 1)),
    ("parts", .arr [.obj [("at", .str "2024-02-29"), ("parts", .arr [])]])]

end Json

namespace Validate

/-- The event that comes out of the draft is accepted unchanged. -/
theorem validateJson_again_events :
    Scope.calendar.Canonical ∧ Definitions.events.Canonical ∧
    (Builder.empty "events" (some .calendar)).buildFrom .events = .ok .events ∧
    Scope.events.compile "Event" = .ok ⟨.events, "Event"⟩ ∧
    Validator.validateJson ⟨.events, "Event"⟩ .draft = .ok .final ∧
    Validator.validateJson ⟨.events, "Event"⟩ .final = .ok .final := by
  have hparent : ∀ p, some Scope.calendar = some p → p.Canonical := by
    rintro p ⟨⟩
    exact Scope.canonical_calendar
  have hbuild : (Builder.empty "events" (some .calendar)).buildFrom .events = .ok .events := rfl
  have hcompile : Scope.events.compile "Event" = .ok ⟨.events, "Event"⟩ := rfl
  have hdraft : Validator.validateJson ⟨.events, "Event"⟩ .draft = .ok .final := by cbv
  exact ⟨Scope.canonical_calendar, Definitions.canonical_events, hbuild, hcompile, hdraft,
    validateJson_again hparent Definitions.canonical_events hbuild hcompile hdraft⟩

end Validate

end Conform
