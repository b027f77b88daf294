import Conform.Definition.Lower
import Conform.Proofs.Outcome

/-!
# What lowering accepts and gives

All that can be wrong with a type as written is a name or a pattern in it, and what lowering finds
wrong is the first of these in the order of the source. If nothing is wrong, the type has one node for
every node of what is written, and refers to the names that are not reserved.

* `TypeSyntax.mentions`: the names and patterns, in the order of the source;
* `TypeSyntax.LowersTo`: a type of the shape of what is written;
* `TypeSyntax.lower_eq_ok`: types are lowered to what they have the shape of;
* `TypeSyntax.error?_lower`: the fault is that of the first mention that is not sound;
* `TypeSyntax.references_of_lowersTo`: the references of the type.
-/

namespace Conform

/-! ## Names and patterns in the source -/

/-- What can be wrong with a type as written: a name or a pattern. -/
inductive Mention where
  | name (n : String)
  | pattern (p : String)

/-- The name that is mentioned. -/
def Mention.name? : Mention → Option String
  | .name n => some n
  | .pattern _ => none

namespace PredicateSyntax

mutual

/-- The patterns of a check, in the order of the source. -/
def patterns : PredicateSyntax → List String
  | .matching p => [p]
  | .all ps => patternsList ps
  | .any ps => patternsList ps
  | .not p => patterns p
  | _ => []

/-- The patterns of checks. -/
def patternsList : List PredicateSyntax → List String
  | [] => []
  | p :: r => patterns p ++ patternsList r

end

end PredicateSyntax

namespace TypeSyntax

mutual

/-- The names and patterns of a type, in the order of the source: the fields of a record before its
extras, the base of a type before its constraints. -/
def mentions : TypeSyntax → List Mention
  | .typeRef n => [.name n]
  | .typeSchema ps es => mentionsProperties ps ++ mentionsExtras es
  | .subtypeConstraint b cs => mentions b ++ cs.flatMap fun c => c.condition.patterns.map .pattern
  | .arrayType t => mentions t
  | .unionType ts => mentionsList ts
  | .nullable t => mentions t
  | .literal _ => []

/-- The names and patterns of types. -/
def mentionsList : List TypeSyntax → List Mention
  | [] => []
  | t :: r => mentions t ++ mentionsList r

/-- The names and patterns in the types of fields. -/
def mentionsProperties : List (Property TypeSyntax) → List Mention
  | [] => []
  | ⟨_, t, _⟩ :: r => mentions t ++ mentionsProperties r

/-- The names and patterns in the type of other keys. -/
def mentionsExtras : Extras TypeSyntax → List Mention
  | .closed => []
  | .ignored => []
  | .typed t => mentions t

end

end TypeSyntax

namespace Mention

/-- The names among the mentions that are not reserved for a kind, in order. -/
def unreserved (ms : List Mention) : List String :=
  (ms.filterMap name?).filter fun n => Kind.ofName? n = none

theorem unreserved_append (ms ns : List Mention) :
    unreserved (ms ++ ns) = unreserved ms ++ unreserved ns := by
  simp [unreserved]

theorem unreserved_patterns (cs : List ConstraintSyntax) :
    unreserved (cs.flatMap fun c => c.condition.patterns.map pattern) = [] := by
  have hnone : ∀ m ∈ cs.flatMap fun c => c.condition.patterns.map pattern, m.name? = none := by
    intro m hm
    obtain ⟨c, -, hm⟩ := List.mem_flatMap.1 hm
    obtain ⟨p, -, rfl⟩ := List.mem_map.1 hm
    rfl
  rw [unreserved, List.filterMap_eq_nil_iff.2 hnone, List.filter_nil]

theorem ofName?_of_mem_unreserved {ms : List Mention} {n : String} (h : n ∈ unreserved ms) :
    Kind.ofName? n = none := by
  simpa using (List.mem_filter.1 h).2

end Mention

/-! ## What is wrong with a mention -/

variable [PatternEngine]

namespace Mention

/-- The name is reserved for a kind or starts with a capital; the engine accepts the pattern. -/
def Sound : Mention → Prop
  | .name n => (Kind.ofName? n).isSome ∨ n.toList.head?.any Text.isUpper
  | .pattern p => ∃ f, PatternEngine.compile p = .ok f

/-- What is wrong with a name or a pattern. -/
inductive Fault : Mention → DefinitionError → Prop
  | name {n} (hkind : Kind.ofName? n = none) (hupper : n.toList.head?.any Text.isUpper = false) :
    Fault (.name n) (.unknownType n)
  | pattern {p why} (h : PatternEngine.compile p = .error why) :
    Fault (.pattern p) (.invalidPattern p why)

/-- What is wrong with a name or a pattern, if something is. -/
def fault? : Mention → Option DefinitionError
  | .name n =>
    if (Kind.ofName? n).isSome ∨ n.toList.head?.any Text.isUpper then none else some (.unknownType n)
  | .pattern p =>
    match PatternEngine.compile p with
    | .ok _ => none
    | .error why => some (.invalidPattern p why)

theorem fault?_eq_none {m : Mention} : m.fault? = none ↔ m.Sound := by
  cases m with
  | name n =>
    by_cases h : (Kind.ofName? n).isSome ∨ n.toList.head?.any Text.isUpper
    · exact iff_of_true (if_pos h) h
    · refine iff_of_false ?_ h
      simp [fault?, h]
  | pattern p =>
    cases h : PatternEngine.compile p with
    | ok f => exact iff_of_true (by simp [fault?, h]) ⟨f, h⟩
    | error why =>
      refine iff_of_false (by simp [fault?, h]) ?_
      rintro ⟨f, hf⟩
      cases h.symm.trans hf

theorem fault?_eq_some {m : Mention} {x : DefinitionError} : m.fault? = some x ↔ m.Fault x := by
  constructor
  · intro h
    cases m with
    | name n =>
      simp only [fault?, Option.ite_none_left_eq_some, not_or, Option.some.injEq] at h
      obtain ⟨⟨hkind, hupper⟩, rfl⟩ := h
      exact .name (by simpa using hkind) (by simpa using hupper)
    | pattern p =>
      unfold fault? at h
      cases hp : PatternEngine.compile p with
      | ok f => simp [hp] at h
      | error why =>
        obtain rfl : DefinitionError.invalidPattern p why = x := by simpa [hp] using h
        exact .pattern hp
  · intro h
    cases h with
    | name hkind hupper => simp [fault?, hkind, hupper]
    | pattern hp => simp [fault?, hp]

/-- The first fault is that of the first mention that is not sound. -/
theorem findSome?_fault? {ms : List Mention} {x : DefinitionError} : ms.findSome? fault? = some x ↔
    ∃ before m after, ms = before ++ m :: after ∧ (∀ k ∈ before, k.Sound) ∧ m.Fault x := by
  simp only [List.findSome?_eq_some_iff, fault?_eq_none, fault?_eq_some]
  constructor
  · rintro ⟨before, m, after, hms, hm, hbefore⟩
    exact ⟨before, m, after, hms, hbefore, hm⟩
  · rintro ⟨before, m, after, hms, hbefore, hm⟩
    exact ⟨before, m, after, hms, hm, hbefore⟩

end Mention

/-! ## One node for every node -/

/-- The predicate has the shape of the check: bounds are converted, patterns are read. -/
inductive PredicateSyntax.LowersTo : PredicateSyntax → Predicate → Prop
  | compare (op j) : LowersTo (.compare op j) (.compare op (Value.ofJson j))
  | even : LowersTo .even .even
  | odd : LowersTo .odd .odd
  | minLength (n) : LowersTo (.minLength n) (.minLength n.toNat)
  | maxLength (n) : LowersTo (.maxLength n) (.maxLength n.toNat)
  | matching {p f} (h : PatternEngine.compile p = .ok f) : LowersTo (.matching p) (.matching ⟨p, f⟩)
  | all {ps qs} (h : List.Forall₂ LowersTo ps qs) : LowersTo (.all ps) (.all qs)
  | any {ps qs} (h : List.Forall₂ LowersTo ps qs) : LowersTo (.any ps) (.any qs)
  | not {p q} (h : LowersTo p q) : LowersTo (.not p) (.not q)

/-- The constraint has the label and the check as written. -/
inductive ConstraintSyntax.LowersTo : ConstraintSyntax → Constraint → Prop
  | intro {l p q} (h : p.LowersTo q) : LowersTo ⟨l, p⟩ ⟨l, q⟩

/-- The field has the key as its name and is required unless it is optional; the types are related. -/
inductive Property.LowersTo (R : TypeSyntax → Schema → Prop) :
    Property TypeSyntax → Field Schema → Prop
  | intro {k t u o} (h : R t u) : LowersTo R ⟨k, t, o⟩ ⟨k, u, !o⟩

/-- Other keys are treated as written; the types are related. -/
inductive Extras.LowersTo (R : TypeSyntax → Schema → Prop) :
    Extras TypeSyntax → Extras Schema → Prop
  | closed : LowersTo R .closed .closed
  | ignored : LowersTo R .ignored .ignored
  | typed {t u} (h : R t u) : LowersTo R (.typed t) (.typed u)

/-- **The type has the shape of what is written**: one node for every node, in the same order. -/
inductive TypeSyntax.LowersTo : TypeSyntax → Schema → Prop
  | kind {n k} (h : Kind.ofName? n = some k) : LowersTo (.typeRef n) (.primitive k)
  | ref {n} (h : Kind.ofName? n = none) (hn : n.toList.head?.any Text.isUpper) :
    LowersTo (.typeRef n) (.ref n)
  | typeSchema {ps fs es ex} (hp : List.Forall₂ (Property.LowersTo LowersTo) ps fs)
    (hx : Extras.LowersTo LowersTo es ex) : LowersTo (.typeSchema ps es) (.record fs ex)
  | subtypeConstraint {b t cs ks} (hb : LowersTo b t)
    (hc : List.Forall₂ ConstraintSyntax.LowersTo cs ks) :
    LowersTo (.subtypeConstraint b cs) (.refined t ks)
  | arrayType {t u} (h : LowersTo t u) : LowersTo (.arrayType t) (.array u)
  | unionType {ts us} (h : List.Forall₂ LowersTo ts us) : LowersTo (.unionType ts) (.union us)
  | nullable {t u} (h : LowersTo t u) : LowersTo (.nullable t) (.nullable u)
  | literal (js) : LowersTo (.literal js) (.literal (js.map Value.ofJson))

/-! ## Lowering succeeds -/

omit [PatternEngine] in
/-- A name stands for its kind, else for a reference if it starts with a capital. -/
theorem lowerName_eq (n : String) : lowerName n =
    match Kind.ofName? n with
    | some k => .ok (.primitive k)
    | none => if n.toList.head?.any Text.isUpper then .ok (.ref n) else .error (.unknownType n) := by
  unfold lowerName
  cases Kind.ofName? n with
  | some k => rfl
  | none => cases n.toList <;> rfl

theorem lowerName_eq_ok {n : String} {u : Schema} :
    lowerName n = .ok u ↔ (TypeSyntax.typeRef n).LowersTo u := by
  rw [lowerName_eq]
  constructor
  · intro h
    split at h
    · rename_i k hk
      obtain rfl := Except.ok.inj h
      exact .kind hk
    · rename_i hk
      split at h
      · rename_i hn
        obtain rfl := Except.ok.inj h
        exact .ref hk hn
      · cases h
  · intro h
    cases h with
    | kind hk => rw [hk]
    | ref hk hn => rw [hk, if_pos hn]

namespace PredicateSyntax

mutual

/-- **Checks are lowered to predicates of their shape**, and to no others. -/
theorem lower_eq_ok : ∀ (p : PredicateSyntax) {q : Predicate}, p.lower = .ok q ↔ p.LowersTo q
  | .compare op j, q => ⟨fun h => Except.ok.inj h ▸ .compare op j, fun h => by cases h; rfl⟩
  | .even, q => ⟨fun h => Except.ok.inj h ▸ .even, fun h => by cases h; rfl⟩
  | .odd, q => ⟨fun h => Except.ok.inj h ▸ .odd, fun h => by cases h; rfl⟩
  | .minLength n, q => ⟨fun h => Except.ok.inj h ▸ .minLength n, fun h => by cases h; rfl⟩
  | .maxLength n, q => ⟨fun h => Except.ok.inj h ▸ .maxLength n, fun h => by cases h; rfl⟩
  | .matching p, q => by
    rw [lower]
    constructor
    · intro h
      cases hp : PatternEngine.compile p with
      | error why =>
        rw [Pattern.read_of_error hp] at h
        cases h
      | ok f =>
        rw [Pattern.read_of_ok hp] at h
        exact Except.ok.inj h ▸ .matching hp
    · intro h
      cases h with
      | matching hp => rw [Pattern.read_of_ok hp]
  | .all ps, q => by
    rw [lower]
    refine Outcome.map_iff (lowerList_eq_ok ps) .all fun h => ?_
    cases h with
    | all hqs => exact ⟨_, hqs, rfl⟩
  | .any ps, q => by
    rw [lower]
    refine Outcome.map_iff (lowerList_eq_ok ps) .any fun h => ?_
    cases h with
    | any hqs => exact ⟨_, hqs, rfl⟩
  | .not p, q => by
    rw [lower]
    refine Outcome.map_iff (lower_eq_ok p) .not fun h => ?_
    cases h with
    | not hr => exact ⟨_, hr, rfl⟩

theorem lowerList_eq_ok : ∀ (ps : List PredicateSyntax) {qs : List Predicate},
    lowerList ps = .ok qs ↔ List.Forall₂ LowersTo ps qs
  | [], qs => by rw [lowerList, Except.ok.injEq, List.forall₂_nil_left_iff, eq_comm]
  | p :: r, qs => by
    rw [lowerList, Outcome.both_eq_ok, List.forall₂_cons_left_iff]
    simp only [lower_eq_ok p, lowerList_eq_ok r, eq_comm (a := _ :: _), exists_and_left]

end

end PredicateSyntax

theorem ConstraintSyntax.lower_eq_ok {c : ConstraintSyntax} {k : Constraint} :
    c.lower = .ok k ↔ c.LowersTo k := by
  rw [lower]
  refine Outcome.map_iff (PredicateSyntax.lower_eq_ok c.condition) .intro fun h => ?_
  cases h with
  | intro hq => exact ⟨_, hq, rfl⟩

namespace TypeSyntax

mutual

/-- **Types are lowered to types of their shape**, and to no others. -/
theorem lower_eq_ok : ∀ (t : TypeSyntax) {u : Schema}, t.lower = .ok u ↔ t.LowersTo u
  | .typeRef n, u => lowerName_eq_ok
  | .typeSchema ps es, u => by
    rw [lower, Outcome.both_eq_ok]
    simp only [lowerProperties_eq_ok ps, lowerExtras_eq_ok es]
    constructor
    · rintro ⟨fs, ex, hp, hx, rfl⟩
      exact .typeSchema hp hx
    · intro h
      cases h with
      | typeSchema hp hx => exact ⟨_, _, hp, hx, rfl⟩
  | .subtypeConstraint b cs, u => by
    rw [lower, Outcome.both_eq_ok]
    simp only [lower_eq_ok b, Outcome.mapM_eq_ok, ConstraintSyntax.lower_eq_ok]
    constructor
    · rintro ⟨t, ks, hb, hc, rfl⟩
      exact .subtypeConstraint hb hc
    · intro h
      cases h with
      | subtypeConstraint hb hc => exact ⟨_, _, hb, hc, rfl⟩
  | .arrayType t, u => by
    rw [lower]
    refine Outcome.map_iff (lower_eq_ok t) .arrayType fun h => ?_
    cases h with
    | arrayType hr => exact ⟨_, hr, rfl⟩
  | .unionType ts, u => by
    rw [lower]
    refine Outcome.map_iff (lowerList_eq_ok ts) .unionType fun h => ?_
    cases h with
    | unionType hus => exact ⟨_, hus, rfl⟩
  | .nullable t, u => by
    rw [lower]
    refine Outcome.map_iff (lower_eq_ok t) .nullable fun h => ?_
    cases h with
    | nullable hr => exact ⟨_, hr, rfl⟩
  | .literal js, u => ⟨fun h => Except.ok.inj h ▸ .literal js, fun h => by cases h; rfl⟩

theorem lowerList_eq_ok : ∀ (ts : List TypeSyntax) {us : List Schema},
    lowerList ts = .ok us ↔ List.Forall₂ LowersTo ts us
  | [], us => by rw [lowerList, Except.ok.injEq, List.forall₂_nil_left_iff, eq_comm]
  | t :: r, us => by
    rw [lowerList, Outcome.both_eq_ok, List.forall₂_cons_left_iff]
    simp only [lower_eq_ok t, lowerList_eq_ok r, eq_comm (a := _ :: _), exists_and_left]

theorem lowerProperties_eq_ok : ∀ (ps : List (Property TypeSyntax)) {fs : List (Field Schema)},
    lowerProperties ps = .ok fs ↔ List.Forall₂ (Property.LowersTo LowersTo) ps fs
  | [], fs => by rw [lowerProperties, Except.ok.injEq, List.forall₂_nil_left_iff, eq_comm]
  | ⟨k, t, o⟩ :: r, fs => by
    rw [lowerProperties, Outcome.both_eq_ok, List.forall₂_cons_left_iff]
    simp only [lower_eq_ok t, lowerProperties_eq_ok r]
    constructor
    · rintro ⟨u, fs, hu, hfs, rfl⟩
      exact ⟨_, fs, .intro hu, hfs, rfl⟩
    · rintro ⟨_, fs, ⟨hu⟩, hfs, rfl⟩
      exact ⟨_, fs, hu, hfs, rfl⟩

theorem lowerExtras_eq_ok : ∀ (es : Extras TypeSyntax) {ex : Extras Schema},
    lowerExtras es = .ok ex ↔ Extras.LowersTo LowersTo es ex
  | .closed, ex => ⟨fun h => Except.ok.inj h ▸ .closed, fun h => by cases h; rfl⟩
  | .ignored, ex => ⟨fun h => Except.ok.inj h ▸ .ignored, fun h => by cases h; rfl⟩
  | .typed t, ex => by
    rw [lowerExtras]
    refine Outcome.map_iff (lower_eq_ok t) .typed fun h => ?_
    cases h with
    | typed hu => exact ⟨_, hu, rfl⟩

end

end TypeSyntax

/-! ## Lowering fails -/

theorem error?_lowerName (n : String) :
    Outcome.error? (lowerName n) = [Mention.name n].findSome? Mention.fault? := by
  rw [lowerName_eq, List.findSome?_singleton, Mention.fault?]
  cases Kind.ofName? n with
  | some k => simp [Outcome.error?]
  | none => cases n.toList.head?.any Text.isUpper <;> simp [Outcome.error?]

namespace PredicateSyntax

mutual

/-- The fault of a check is that of its first pattern that the engine refuses. -/
theorem error?_lower : ∀ p : PredicateSyntax,
    Outcome.error? p.lower = p.patterns.findSome? fun s => (Mention.pattern s).fault?
  | .compare op j => rfl
  | .even => rfl
  | .odd => rfl
  | .minLength n => rfl
  | .maxLength n => rfl
  | .matching s => by
    rw [lower, patterns, List.findSome?_singleton, Mention.fault?]
    cases hs : PatternEngine.compile s with
    | ok f => rw [Pattern.read_of_ok hs]; rfl
    | error why => rw [Pattern.read_of_error hs]; rfl
  | .all ps => by rw [lower, Outcome.error?_map, patterns, error?_lowerList ps]
  | .any ps => by rw [lower, Outcome.error?_map, patterns, error?_lowerList ps]
  | .not p => by rw [lower, Outcome.error?_map, patterns, error?_lower p]

theorem error?_lowerList : ∀ ps : List PredicateSyntax, Outcome.error? (lowerList ps) =
    (patternsList ps).findSome? fun s => (Mention.pattern s).fault?
  | [] => rfl
  | p :: r => by
    rw [lowerList, Outcome.error?_both, patternsList, List.findSome?_append, error?_lower p,
      error?_lowerList r]

end

end PredicateSyntax

theorem ConstraintSyntax.error?_mapM_lower (cs : List ConstraintSyntax) :
    Outcome.error? (cs.mapM lower) =
      (cs.flatMap fun c => c.condition.patterns.map Mention.pattern).findSome? Mention.fault? := by
  induction cs with
  | nil => rfl
  | cons c cs ih =>
    have hc : Outcome.error? c.lower =
        (c.condition.patterns.map Mention.pattern).findSome? Mention.fault? := by
      rw [lower, Outcome.error?_map, PredicateSyntax.error?_lower, List.findSome?_map]
      rfl
    rw [List.mapM_cons, Outcome.error?_both, hc, ih, List.flatMap_cons, List.findSome?_append]

namespace TypeSyntax

mutual

/-- **The fault of a type is that of its first name or pattern that is not sound.** -/
theorem error?_lower : ∀ t : TypeSyntax,
    Outcome.error? t.lower = t.mentions.findSome? Mention.fault?
  | .typeRef n => error?_lowerName n
  | .typeSchema ps es => by
    rw [lower, Outcome.error?_both, mentions, List.findSome?_append, error?_lowerProperties ps,
      error?_lowerExtras es]
  | .subtypeConstraint b cs => by
    rw [lower, Outcome.error?_both, mentions, List.findSome?_append, error?_lower b,
      ConstraintSyntax.error?_mapM_lower]
  | .arrayType t => by rw [lower, Outcome.error?_map, mentions, error?_lower t]
  | .unionType ts => by rw [lower, Outcome.error?_map, mentions, error?_lowerList ts]
  | .nullable t => by rw [lower, Outcome.error?_map, mentions, error?_lower t]
  | .literal js => rfl

theorem error?_lowerList : ∀ ts : List TypeSyntax,
    Outcome.error? (lowerList ts) = (mentionsList ts).findSome? Mention.fault?
  | [] => rfl
  | t :: r => by
    rw [lowerList, Outcome.error?_both, mentionsList, List.findSome?_append, error?_lower t,
      error?_lowerList r]

theorem error?_lowerProperties : ∀ ps : List (Property TypeSyntax),
    Outcome.error? (lowerProperties ps) = (mentionsProperties ps).findSome? Mention.fault?
  | [] => rfl
  | ⟨_, t, _⟩ :: r => by
    rw [lowerProperties, Outcome.error?_both, mentionsProperties, List.findSome?_append,
      error?_lower t, error?_lowerProperties r]

theorem error?_lowerExtras : ∀ es : Extras TypeSyntax,
    Outcome.error? (lowerExtras es) = (mentionsExtras es).findSome? Mention.fault?
  | .closed => rfl
  | .ignored => rfl
  | .typed t => by rw [lowerExtras, Outcome.error?_map, mentionsExtras, error?_lower t]

end

end TypeSyntax

/-! ## References -/

namespace TypeSyntax

mutual

/-- **A type refers to the names as written that are not reserved**, in the order of the source. -/
theorem references_of_lowersTo : ∀ (t : TypeSyntax) {u : Schema}, t.LowersTo u →
    u.references = Mention.unreserved t.mentions
  | .typeRef n, _, h => by
    cases h with
    | kind hk => simp [Schema.references, mentions, Mention.unreserved, Mention.name?, hk]
    | ref hk => simp [Schema.references, mentions, Mention.unreserved, Mention.name?, hk]
  | .typeSchema ps es, _, h => by
    cases h with
    | @typeSchema _ fs _ ex hp hx =>
      rw [mentions, Mention.unreserved_append, ← references_of_properties ps hp]
      cases hx with
      | closed => simp [Schema.references, mentionsExtras, Mention.unreserved]
      | ignored => simp [Schema.references, mentionsExtras, Mention.unreserved]
      | @typed t _ ht => rw [Schema.references, mentionsExtras, references_of_lowersTo t ht]
  | .subtypeConstraint b cs, _, h => by
    cases h with
    | subtypeConstraint hb hc =>
      rw [Schema.references, mentions, Mention.unreserved_append, Mention.unreserved_patterns,
        List.append_nil, references_of_lowersTo b hb]
  | .arrayType t, _, h => by
    cases h with
    | arrayType h => rw [Schema.references, mentions, references_of_lowersTo t h]
  | .unionType ts, _, h => by
    cases h with
    | unionType h => rw [Schema.references, mentions, references_of_branches ts h]
  | .nullable t, _, h => by
    cases h with
    | nullable h => rw [Schema.references, mentions, references_of_lowersTo t h]
  | .literal js, _, h => by
    cases h
    rfl

theorem references_of_branches : ∀ (ts : List TypeSyntax) {us : List Schema},
    List.Forall₂ LowersTo ts us →
      Schema.branchReferences us = Mention.unreserved (mentionsList ts)
  | [], _, .nil => rfl
  | t :: r, _, .cons ht hr => by
    rw [Schema.branchReferences, mentionsList, Mention.unreserved_append,
      references_of_lowersTo t ht, references_of_branches r hr]

theorem references_of_properties : ∀ (ps : List (Property TypeSyntax)) {fs : List (Field Schema)},
    List.Forall₂ (Property.LowersTo LowersTo) ps fs →
      Schema.fieldReferences fs = Mention.unreserved (mentionsProperties ps)
  | [], _, .nil => rfl
  | ⟨k, t, o⟩ :: r, _, .cons (.intro ht) hr => by
    rw [Schema.fieldReferences, mentionsProperties, Mention.unreserved_append,
      references_of_lowersTo t ht, references_of_properties r hr]

end

end TypeSyntax

end Conform
