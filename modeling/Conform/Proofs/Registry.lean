import Conform.Pattern.Parser
import Conform.Proofs.Entries
import Conform.Proofs.Outcome
import Conform.Registry

/-!
# The history of a registry

A registry answers requests to load units, and every answer comes with the registry after it. `run` is
the registry after a sequence of requests, some of which may have failed. The registry changes where a
scope is published, and behind that nothing can fail.

* `answer_cases`: a request fails and changes nothing, or adds one new unit;
* `unit?_run`: a unit that is loaded stays the same, whatever is asked for later;
* `unit?_of_loads`: a unit is the scope of its definitions inside the prelude, and nothing else of the
  history matters;
* `units_run`: the units are those of the requests that were granted, in their order;
* `append_only`: what a history of any length says about the registry.
-/

namespace Conform.Registry

/-- A request to load a unit: its definitions, or a text that holds them. -/
inductive Request where
  | definitions (u : String) (d : Definitions)
  | source (u : String) (text : Read.Bytes)

namespace Request

/-- The unit that is asked for. -/
def unit : Request → String
  | .definitions u _ => u
  | .source u _ => u

/-- The definitions that are given or written. -/
def content : Request → Except DefinitionError Definitions
  | .definitions _ d => .ok d
  | .source _ text => Definitions.parse text

end Request

section Answer

variable [PatternEngine]

/-- The answer to a request, and the registry after it. -/
def answer (r : Registry) : Request → Except DefinitionError Scope × Registry
  | .definitions u d => r.load u d
  | .source u text => r.loadSource u text

/-- The registry after a request. -/
def after (r : Registry) (q : Request) : Registry := (r.answer q).2

/-- The registry after requests, one after the other. -/
def run (r : Registry) (qs : List Request) : Registry := qs.foldl after r

/-- Among the requests there is one that loads the unit from the definitions. -/
def Loads (r : Registry) (qs : List Request) (u : String) (d : Definitions) : Prop :=
  ∃ before q later s, qs = before ++ q :: later ∧ q.unit = u ∧ q.content = .ok d ∧
    ((r.run before).answer q).1 = .ok s

/-! ## One request -/

variable {r : Registry} {q : Request} {u : String} {s : Scope} {d : Definitions} {x : DefinitionError}

omit [PatternEngine] in
/-- A scope of a new name is published behind all units. -/
theorem publish_of_new (h : r.unit? u = none) :
    r.publish u s = (.ok s, ⟨r.prelude, r.units ++ [(u, s)]⟩) := by
  have hnot : u ∉ Entries.keys r.units := (Entries.find?_eq_none_iff u r.units).1 h
  have hput : Entries.put u s r.units = r.units ++ [(u, s)] := by
    simpa [Entries.put] using Entries.put_append_of_notMem (a := s) hnot []
  unfold publish
  rw [if_neg (mt (Entries.has_iff_mem_keys u r.units).1 hnot), hput]

theorem prepare_eq_ok : r.prepare u d = .ok s ↔
    r.unit? u = none ∧ (Builder.empty u r.prelude).buildFrom d = .ok s := by
  unfold prepare
  cases r.unit? u with
  | some t => simp
  | none => simp

theorem answer_of_content (h : q.content = .ok d) : r.answer q = r.load q.unit d := by
  cases q with
  | definitions u d' =>
    obtain rfl : d' = d := Except.ok.inj h
    rfl
  | source u text =>
    have hparse : Definitions.parse text = .ok d := h
    show r.loadSource u text = r.load u d
    rw [loadSource, hparse]

theorem answer_of_unread (h : q.content = .error x) : r.answer q = (.error x, r) := by
  cases q with
  | definitions u d' => cases h
  | source u text =>
    have hparse : Definitions.parse text = .error x := h
    show r.loadSource u text = _
    rw [loadSource, hparse]

/-- A request for a new unit succeeds when its definitions can be built inside the prelude. -/
theorem answer_of_new (hd : q.content = .ok d) (hnew : r.unit? q.unit = none)
    (hs : (Builder.empty q.unit r.prelude).buildFrom d = .ok s) :
    r.answer q = (.ok s, ⟨r.prelude, r.units ++ [(q.unit, s)]⟩) := by
  rw [answer_of_content hd, load, prepare_eq_ok.2 ⟨hnew, hs⟩]
  exact publish_of_new hnew

/-- **The step.** A request fails and leaves the registry as it is; or it asks for a new unit, with
definitions that can be built inside the prelude, and the registry gets the scope behind all others. -/
theorem answer_cases (r : Registry) (q : Request) : (∃ x, r.answer q = (.error x, r)) ∨
    ∃ d s, q.content = .ok d ∧ r.unit? q.unit = none ∧
      (Builder.empty q.unit r.prelude).buildFrom d = .ok s ∧
      r.answer q = (.ok s, ⟨r.prelude, r.units ++ [(q.unit, s)]⟩) := by
  cases hd : q.content with
  | error x => exact Or.inl ⟨x, answer_of_unread hd⟩
  | ok d =>
    cases hs : r.prepare q.unit d with
    | error x =>
      refine Or.inl ⟨x, ?_⟩
      rw [answer_of_content hd, load, hs]
    | ok s =>
      obtain ⟨hnew, hs⟩ := prepare_eq_ok.1 hs
      exact Or.inr ⟨d, s, rfl, hnew, hs, answer_of_new hd hnew hs⟩

/-- **A request that succeeds** asks for a new unit, with definitions that can be built inside the
prelude; the registry gets the scope behind all others. -/
theorem answer_ok (h : (r.answer q).1 = .ok s) : ∃ d, q.content = .ok d ∧ r.unit? q.unit = none ∧
    (Builder.empty q.unit r.prelude).buildFrom d = .ok s ∧
      r.after q = ⟨r.prelude, r.units ++ [(q.unit, s)]⟩ := by
  rcases answer_cases r q with ⟨x, hx⟩ | ⟨d, t, hd, hnew, ht, hq⟩
  · rw [hx] at h
    cases h
  · rw [hq] at h
    obtain rfl : t = s := Except.ok.inj h
    exact ⟨d, hd, hnew, ht, congrArg Prod.snd hq⟩

/-- **A request that fails** leaves the registry as it is. -/
theorem after_of_error (h : (r.answer q).1 = .error x) : r.after q = r := by
  rcases answer_cases r q with ⟨y, hy⟩ | ⟨d, t, -, -, -, hq⟩
  · exact congrArg Prod.snd hy
  · rw [hq] at h
    cases h

/-- A request leaves the registry as it is or adds one new unit. -/
theorem after_cases (r : Registry) (q : Request) : r.after q = r ∨
    ∃ s, r.unit? q.unit = none ∧ r.after q = ⟨r.prelude, r.units ++ [(q.unit, s)]⟩ := by
  rcases answer_cases r q with ⟨x, hx⟩ | ⟨d, s, -, hnew, -, hq⟩
  · exact Or.inl (congrArg Prod.snd hx)
  · exact Or.inr ⟨s, hnew, congrArg Prod.snd hq⟩

theorem prelude_after (r : Registry) (q : Request) : (r.after q).prelude = r.prelude := by
  rcases after_cases r q with h | ⟨s, -, h⟩
  · rw [h]
  · rw [h]

/-- A loaded unit stays as it is. -/
theorem unit?_after (h : r.unit? u = some s) (q : Request) : (r.after q).unit? u = some s := by
  rcases after_cases r q with hq | ⟨t, -, hq⟩
  · rw [hq]
    exact h
  · rw [hq, unit?, Entries.find?_append, show Entries.find? u r.units = some s from h]
    rfl

/-- A request that succeeds loads its unit. -/
theorem unit?_answer (h : (r.answer q).1 = .ok s) : (r.after q).unit? q.unit = some s := by
  obtain ⟨d, -, hnew, -, hafter⟩ := answer_ok h
  rw [hafter, unit?, Entries.find?_append, show Entries.find? q.unit r.units = none from hnew]
  simp [Entries.find?]

end Answer

/-! ## Sequences of requests -/

section Run

variable [PatternEngine] {r : Registry} {u : String} {s : Scope}

theorem run_append (r : Registry) (qs qs' : List Request) :
    r.run (qs ++ qs') = (r.run qs).run qs' :=
  List.foldl_append

theorem prelude_run (r : Registry) (qs : List Request) : (r.run qs).prelude = r.prelude := by
  induction qs generalizing r with
  | nil => rfl
  | cons q qs ih => exact (ih (r.after q)).trans (prelude_after r q)

/-- **A unit once loaded** is the same scope after all further requests. -/
theorem unit?_run (h : r.unit? u = some s) (qs : List Request) : (r.run qs).unit? u = some s := by
  induction qs generalizing r with
  | nil => exact h
  | cons q qs ih => exact ih (unit?_after h q)

/-- **What a unit is** depends on the prelude, its name and its definitions only. -/
theorem unit?_of_loads {qs : List Request} {d : Definitions} (h : r.Loads qs u d) :
    ∃ s, (Builder.empty u r.prelude).buildFrom d = .ok s ∧ (r.run qs).unit? u = some s := by
  obtain ⟨before, q, later, s, rfl, rfl, hd, hq⟩ := h
  obtain ⟨d', hd', -, hb, -⟩ := answer_ok hq
  obtain rfl := Except.ok.inj (hd.symm.trans hd')
  rw [prelude_run] at hb
  refine ⟨s, hb, ?_⟩
  rw [run_append]
  show (((r.run before).after q).run later).unit? q.unit = some s
  exact unit?_run (unit?_answer hq) later

end Run

/-! ## The requests that succeed -/

section Granted

variable [PatternEngine] {r : Registry}

/-- The requests that succeed, one after the other, each with the scope that is its answer. -/
def granted (r : Registry) : List Request → List (Request × Scope)
  | [] => []
  | q :: qs =>
    match r.answer q with
    | (.ok s, r') => (q, s) :: r'.granted qs
    | (.error _, r') => r'.granted qs

/-- **The units of a history** are those it started with and those that were granted. -/
theorem units_run (r : Registry) (qs : List Request) :
    (r.run qs).units = r.units ++ (r.granted qs).map fun g => (g.1.unit, g.2) := by
  induction qs generalizing r with
  | nil => exact (List.append_nil _).symm
  | cons q qs ih =>
    show ((r.after q).run qs).units = _
    rw [ih, granted, after]
    rcases answer_cases r q with ⟨x, hx⟩ | ⟨d, s, -, -, -, hq⟩
    · rw [hx]
    · rw [hq, List.map_cons, List.append_assoc, List.singleton_append]

/-- **The step**: no request makes a second unit of one name. -/
theorem nodup_after (h : r.unitNames.Nodup) (q : Request) : (r.after q).unitNames.Nodup := by
  rcases after_cases r q with hq | ⟨s, hnew, hq⟩
  · rw [hq]
    exact h
  · have hnot : q.unit ∉ r.unitNames := (Entries.find?_eq_none_iff q.unit r.units).1 hnew
    rw [hq, unitNames, Entries.keys_append]
    exact List.nodup_append'.2 ⟨h, List.nodup_singleton _, List.disjoint_singleton.2 hnot⟩

/-- **The run**: the names of units stay distinct. -/
theorem nodup_run (h : r.unitNames.Nodup) (qs : List Request) : (r.run qs).unitNames.Nodup := by
  induction qs generalizing r with
  | nil => exact h
  | cons q qs ih => exact ih (nodup_after h q)

end Granted

section Empty

variable [PatternEngine] (prelude : Option Scope) (qs : List Request)

theorem nodup_unitNames : ((empty prelude).run qs).unitNames.Nodup := by
  refine nodup_run ?_ qs
  simp [empty, unitNames, Entries.keys]

theorem unitNames_run :
    ((empty prelude).run qs).unitNames = ((empty prelude).granted qs).map (·.1.unit) := by
  rw [unitNames, units_run, empty, List.nil_append, Entries.keys, List.map_map]
  rfl

theorem unit?_run_eq_some {u : String} {s : Scope} : ((empty prelude).run qs).unit? u = some s ↔
    ∃ q, (q, s) ∈ (empty prelude).granted qs ∧ q.unit = u := by
  have hmem : (u, s) ∈ ((empty prelude).run qs).units ↔
      ∃ q, (q, s) ∈ (empty prelude).granted qs ∧ q.unit = u := by
    rw [units_run, empty, List.nil_append, List.mem_map]
    constructor
    · rintro ⟨⟨q, t⟩, hg, heq⟩
      obtain ⟨rfl, rfl⟩ := Prod.mk.inj heq
      exact ⟨q, hg, rfl⟩
    · rintro ⟨q, hg, rfl⟩
      exact ⟨(q, s), hg, rfl⟩
  rw [← hmem]
  exact ⟨Entries.mem_of_find?, Entries.find?_of_mem (nodup_unitNames prelude qs)⟩

/-- After a history, a request is granted when none for its unit was, and its definitions can be read
and built inside the prelude. -/
theorem answer_run_ok {q : Request} : (∃ s, (((empty prelude).run qs).answer q).1 = .ok s) ↔
    (∀ g ∈ (empty prelude).granted qs, g.1.unit ≠ q.unit) ∧
      ∃ d s, q.content = .ok d ∧ (Builder.empty q.unit prelude).buildFrom d = .ok s := by
  have hprelude : ((empty prelude).run qs).prelude = prelude := prelude_run (empty prelude) qs
  have hnew : ((empty prelude).run qs).unit? q.unit = none ↔
      ∀ g ∈ (empty prelude).granted qs, g.1.unit ≠ q.unit := by
    have hnone := Entries.find?_eq_none_iff q.unit ((empty prelude).run qs).units
    have hnames := unitNames_run prelude qs
    rw [unitNames] at hnames
    rw [unit?, hnone, hnames]
    simp
  constructor
  · rintro ⟨s, hq⟩
    obtain ⟨d, hd, hu, hb, -⟩ := answer_ok hq
    exact ⟨hnew.1 hu, d, s, hd, hprelude ▸ hb⟩
  · rintro ⟨hu, d, s, hd, hb⟩
    exact ⟨s, congrArg Prod.fst (answer_of_new hd (hnew.2 hu) (hprelude.symm ▸ hb))⟩

/-- **A registry is append-only.** After any history of requests, a request is granted when no earlier
one for its unit was granted and its definitions can be read, if they are a text, and built inside the
prelude. A request that fails leaves the registry as it was, and the rest of the history goes on as if
it had not been made. The units have the names of the granted requests, in their order and without
repetition. A unit is the scope that was the answer to its request, and stays so whatever comes
later. -/
theorem append_only :
    (∀ q, (∃ s, (((empty prelude).run qs).answer q).1 = .ok s) ↔
      (∀ g ∈ (empty prelude).granted qs, g.1.unit ≠ q.unit) ∧
        ∃ d s, q.content = .ok d ∧ (Builder.empty q.unit prelude).buildFrom d = .ok s) ∧
    (∀ q x, (((empty prelude).run qs).answer q).1 = .error x →
      ((empty prelude).run qs).after q = (empty prelude).run qs ∧
      ∀ later, (empty prelude).run (qs ++ q :: later) = (empty prelude).run (qs ++ later)) ∧
    (((empty prelude).run qs).unitNames = ((empty prelude).granted qs).map (·.1.unit) ∧
      ((empty prelude).run qs).unitNames.Nodup) ∧
    (∀ u s, ((empty prelude).run qs).unit? u = some s ↔
      ∃ q, (q, s) ∈ (empty prelude).granted qs ∧ q.unit = u) ∧
    (∀ u s, ((empty prelude).run qs).unit? u = some s →
      ∀ later, ((empty prelude).run (qs ++ later)).unit? u = some s) := by
  refine ⟨fun q => answer_run_ok prelude qs, fun q x hq => ?_,
    ⟨unitNames_run prelude qs, nodup_unitNames prelude qs⟩, fun u s => unit?_run_eq_some prelude qs,
    fun u s hu later => ?_⟩
  · have hafter := after_of_error hq
    refine ⟨hafter, fun later => ?_⟩
    rw [run_append, run_append]
    show (((empty prelude).run qs).after q).run later = _
    rw [hafter]
  · rw [run_append]
    exact unit?_run hu later

end Empty

/-! ## An example: a unit that fails first -/

/-- Leaves that are whole numbers. -/
def leaves : Definitions := ⟨[⟨"Leaf", .typeRef "Int"⟩]⟩

/-- A list of trees, where there is no type of trees. -/
def orphans : Definitions := ⟨[⟨"Park", .arrayType (.typeRef "Tree")⟩]⟩

/-- The first request for the unit fails, the second succeeds, and the third comes too late. -/
def attempts : List Request :=
  [.definitions "u" orphans, .definitions "u" leaves, .definitions "u" leaves,
    .definitions "v" leaves]

/-- The second request and the last are granted; the unit cannot be loaded again. -/
theorem append_only_attempts :
    (∃ s, (((empty none).run attempts).unit? "u" = some s ∧ s.names = ["Leaf"]) ∧
      ∀ later, ((empty none).run (attempts ++ later)).unit? "u" = some s) ∧
    ((empty none).run attempts).unitNames = ["u", "v"] ∧
    (∃ x, (((empty none).run attempts).answer (.definitions "w" orphans)).1 = .error x) ∧
    (∀ later, (empty none).run (attempts ++ .definitions "w" orphans :: later) =
      (empty none).run (attempts ++ later)) ∧
    (∃ s, (((empty none).run attempts).answer (.definitions "w" leaves)).1 = .ok s) ∧
    ¬ ∃ s, (((empty none).run attempts).answer (.definitions "u" leaves)).1 = .ok s := by
  obtain ⟨hgranted, hfailed, ⟨hnames, -⟩, hunit, hstays⟩ := append_only none attempts
  have hunits : ((empty none).granted attempts).map (·.1.unit) = ["u", "v"] := rfl
  have horphans : (((empty none).run attempts).answer (.definitions "w" orphans)).1 =
      .error (.unresolvedReference "w" "Park" "Tree") := rfl
  refine ⟨⟨_, ⟨rfl, rfl⟩, hstays "u" _ rfl⟩, hnames.trans hunits, ⟨_, horphans⟩,
    (hfailed _ _ horphans).2, (hgranted _).2 ⟨?_, leaves, _, rfl, rfl⟩, fun hu => ?_⟩
  · intro g hg heq
    have hmem : g.1.unit ∈ ["u", "v"] := hunits ▸ List.mem_map_of_mem hg
    rw [heq] at hmem
    simp [Request.unit] at hmem
  · obtain ⟨g, hg, heq⟩ : ∃ g ∈ (empty none).granted attempts, g.1.unit = "u" :=
      List.mem_map.1 (hunits ▸ List.mem_cons_self)
    exact ((hgranted _).1 hu).1 g hg heq

end Conform.Registry
