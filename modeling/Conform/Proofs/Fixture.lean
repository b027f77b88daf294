import Conform.Command.Replay
import Conform.Pattern.Parser
import Conform.Proofs.Files.Looks
import Conform.Proofs.Outcome
import Mathlib.Data.List.Basic

/-!
# Filtering a replay

Every unit of a fixture is loaded, whether its reports are kept or not, so a filter takes reports
away and changes none of those that stay. The status of a run over fixtures follows: it is 0 when all
files can be read and no report that is kept is a failure.

* `FixtureUnit.reports_filter`: the step, for one unit, however it was loaded;
* `Fixture.replay_filter`: the run, from any registry on;
* `Replay.status_files`: when a run over files ends with the status 0;
* `Replay.filtering_exact`: the main statement.
-/

namespace Conform

/-- Of the reports of a unit a filter keeps those with the labels that it keeps. -/
theorem FixtureUnit.reports_filter (u : FixtureUnit) (keep : String → Bool)
    (loaded : Except DefinitionError Scope) (r : Registry) :
    u.reports keep loaded r = (u.reports (fun _ => true) loaded r).filter (keep ·.label) := by
  unfold reports
  cases u.rejects with
  | some wanted =>
    by_cases hkeep : keep u.loadLabel
    · simp [hkeep]
    · simp [hkeep]
  | none =>
    dsimp only
    rw [List.filter_filterMap]
    refine List.filterMap_congr fun e _ => ?_
    by_cases hkeep : keep (u.caseLabel e.1 e.2)
    · simp [hkeep, Option.filter]
    · simp [hkeep, Option.filter]

namespace Fixture

variable [PatternEngine]

/-- **The run.** The units are loaded one after the other in the same way, whatever is kept. -/
theorem replay_filter (keep : String → Bool) (r : Registry) (us : List FixtureUnit) :
    replay keep r us = (replay (fun _ => true) r us).filter (keep ·.label) := by
  induction us generalizing r with
  | nil => rfl
  | cons u us ih =>
    unfold replay
    dsimp only
    rw [List.filter_append, u.reports_filter keep, ih]

theorem run_filter (f : Fixture) (keep : String → Bool) :
    f.run keep = (f.run fun _ => true).filter (keep ·.label) :=
  replay_filter keep _ f.units

end Fixture

namespace Command.Replay

/-- The status 0 says that there are no failures. -/
theorem passes_eq_length_iff {rs : List Report} :
    rs.length - passes rs = 0 ↔ ∀ r ∈ rs, r.verdict = none := by
  have hle : passes rs ≤ rs.length := List.length_filter_le _ rs
  have hall : passes rs = rs.length ↔ ∀ r ∈ rs, r.verdict = none := by
    simp [passes]
  rw [← hall]
  omega

section Run

variable {σ : Type} [FileAccess (StateM σ)] [Still σ]

theorem looks_load (file : String) : Looks (load file : StateM σ (Except Trouble Fixture)) := by
  refine (Still.read file).bind fun bytes => ?_
  cases bytes with
  | error why => exact looks_pure _
  | ok bytes =>
    dsimp only
    cases Fixture.parse bytes with
    | error why => exact looks_pure _
    | ok f => exact looks_pure _

variable [PatternEngine]

/-- **When a run over files ends with the status 0**: no report before it is a failure, every file
holds a fixture, and no report of these that is kept is a failure. -/
theorem status_files (keep : String → Bool) (said : String) (before : List Report)
    (names : List String) (s : σ) :
    (found (files keep said before names) s).status = 0 ↔ (∀ r ∈ before, r.verdict = none) ∧
      ∀ file ∈ names, ∃ f, found (load file) s = .ok f ∧ ∀ r ∈ f.run keep, r.verdict = none := by
  induction names generalizing said before with
  | nil =>
    rw [← passes_eq_length_iff]
    simp [files]
  | cons file names ih =>
    unfold files
    rw [found_bind (looks_load file)]
    cases hload : found (load file) s with
    | error t => simp [Outcome.stopped, hload]
    | ok f =>
      dsimp only
      rw [ih]
      simp only [List.forall_mem_append, List.forall_mem_cons, hload, Except.ok.injEq,
        exists_eq_left']
      exact and_assoc

/-- A run with a filter that can be read ends with the status 0 when all files hold fixtures and no
report with a label that the filter keeps is a failure. -/
theorem status_run {fixtures : List String} {filter : Option String} {keep : String → Bool}
    (hkeep : keep? filter = .ok keep) (s : σ) :
    (found (run ⟨fixtures, filter⟩) s).status = 0 ↔
      ∀ file ∈ fixtures, ∃ f, found (load file) s = .ok f ∧
        ∀ r ∈ f.run fun _ => true, keep r.label → r.verdict = none := by
  have hrun : (run ⟨fixtures, filter⟩ : StateM σ Outcome) = files keep "" [] fixtures := by
    simp only [run, hkeep]
  rw [hrun, status_files]
  simp only [List.not_mem_nil, false_implies, implies_true, true_and]
  refine forall₂_congr fun file _ => exists_congr fun f => and_congr_right fun _ => ?_
  rw [Fixture.run_filter]
  simp only [List.mem_filter, and_imp]

/-- **A filter changes no verdict.** The reports of a fixture under any filter are its reports without
one whose labels are kept, in the same order and with the same verdicts. So a run over any files that
ends with the status 0 does so with every filter that can be read; and with such a filter the status
is 0 when every file holds a fixture and no report that is kept is a failure, and not otherwise. -/
theorem filtering_exact :
    (∀ (f : Fixture) (keep : String → Bool),
      f.run keep = (f.run fun _ => true).filter (keep ·.label)) ∧
    (∀ (fixtures : List String) (s : σ), (found (run ⟨fixtures, none⟩) s).status = 0 →
      ∀ pattern keep, keep? (some pattern) = .ok keep →
        (found (run ⟨fixtures, some pattern⟩) s).status = 0) ∧
    (∀ (fixtures : List String) (s : σ) (pattern : String) (keep : String → Bool),
      keep? (some pattern) = .ok keep →
        ((found (run ⟨fixtures, some pattern⟩) s).status = 0 ↔
          ∀ file ∈ fixtures, ∃ f, found (load file) s = .ok f ∧
            ∀ r ∈ f.run fun _ => true, keep r.label → r.verdict = none)) := by
  refine ⟨Fixture.run_filter, fun fixtures s hzero pattern keep hkeep => ?_,
    fun fixtures s pattern keep hkeep => status_run hkeep s⟩
  have hall := (status_run (rfl : keep? none = .ok fun _ => true) s).1 hzero
  refine (status_run hkeep s).2 fun file hfile => ?_
  obtain ⟨f, hload, hpass⟩ := hall file hfile
  exact ⟨f, hload, fun r hr _ => hpass r hr rfl⟩

end Run

/-! ## An example: a unit that comes twice, and one that fails -/

/-- A unit without types. -/
def bare (name : String) (others : List (String × Json)) : Json :=
  .obj ([("name", .str name), ("types", .arr [])] ++ others)

/-- A fixture as a file. -/
def fileOf (units : List Json) : Tree :=
  .file (Read.bytesOf (Json.obj [("units", .arr units)]).compact)

/-- In the first file a unit comes twice, and must not load the second time; in the other file there is
no type for a call. -/
def shed : Disk := ⟨.folder [
  ("park.json", fileOf [bare "park" [], bare "park" [("rejects", "park")]]),
  ("pond.json", fileOf [
    bare "pond" [("cases", .arr [.obj [("call", "Frog"), ("input", .null), ("fails", .bool true)]])]])],
  []⟩

/-- The first file passes, and so it does with a filter that keeps only its second unit; with the other
file the run fails, unless the filter leaves out the call that does. -/
theorem filtering_exact_shed :
    (found (run ⟨["park.json"], none⟩) shed).status = 0 ∧
    (found (run ⟨["park.json"], some "<load>$"⟩) shed).status = 0 ∧
    (found (run ⟨["park.json", "pond.json"], none⟩) shed).status = 1 ∧
    ∃ keep, keep? (some "^park/") = .ok keep ∧
      ((found (run ⟨["park.json", "pond.json"], some "^park/"⟩) shed).status = 0 ↔
        ∀ file ∈ ["park.json", "pond.json"], ∃ f, found (load file) shed = .ok f ∧
          ∀ r ∈ f.run fun _ => true, keep r.label → r.verdict = none) ∧
      (found (run ⟨["park.json", "pond.json"], some "^park/"⟩) shed).status = 0 := by
  obtain ⟨-, hevery, hexact⟩ := @filtering_exact Disk _ _ _
  have hpark : (found (run ⟨["park.json"], none⟩) shed).status = 0 := by decide +kernel
  have hload : (keep? (some "<load>$")).toOption.isSome := by decide +kernel
  have hfront : (keep? (some "^park/")).toOption.isSome := by decide +kernel
  obtain ⟨keepLoad, hkeepLoad⟩ := Option.isSome_iff_exists.1 hload
  obtain ⟨keep, hkeep⟩ := Option.isSome_iff_exists.1 hfront
  rw [Outcome.toOption_eq_some] at hkeepLoad hkeep
  exact ⟨hpark, hevery _ _ hpark _ _ hkeepLoad, by decide +kernel, keep, hkeep,
    hexact _ _ _ _ hkeep, by decide +kernel⟩

end Command.Replay

end Conform
